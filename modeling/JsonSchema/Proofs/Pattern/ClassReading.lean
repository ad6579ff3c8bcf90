import JsonSchema.Proofs.Pattern.ClassTokens

/-!
# `JsonSchema.Proofs.Pattern.ClassReading` — what the matcher reads in the tokens of a class

The matcher reads an expanded class item by item and adds the set of each to what it has. A token alone
does not tell what the matcher takes it for: a hyphen behind it may begin a range, and its like behind it may
make an operator of the two. So what is read is said of tokens *and what follows them*. Where no operator is
met, the sets that are read are those of the items that the schema wrote.

## Contents
- **Sets.** `ClassAtom.sets`, `ClassItem.sets`, and what they contain.
- **Reading.** `Reads`, which composes; `Reads.item`, `Reads.named`; `Settled`: what begins no range.
- **Items.** `reads_one`, `reads_range`, and `reads_atoms` by induction on how atoms make items.
- **Opening.** `opening_written`, `dropWhile_ofAtoms`: hyphens at the start of a class.
- **Classes.** Main statement `read?_written`.
-/

namespace JsonSchema.Pattern

open Pattern.Bracket

/-! ## Sets -/

/-- The sets that the matcher reads in the place of an atom. -/
def ClassAtom.sets : ClassAtom → List CharSet
  | .plain c _ | .escaped c _ => [.single c]
  | .backspace => [.single '\x08']
  | .shorthand .digit => [.between '0' '9']
  | .shorthand .notDigit => [.compl (.between '0' '9')]
  | .shorthand .word => [.between 'A' 'Z', .between 'a' 'z', .between '0' '9', .single '_']
  | .shorthand .notWord =>
    [.compl (.unions [.between '0' '9', .between 'A' 'Z', .single '_', .between 'a' 'z'])]

/-- The sets that the matcher reads in the place of an item. -/
def ClassItem.sets : ClassItem → List CharSet
  | .one a => a.sets
  | .range a b =>
    match a.char?, b.char? with
    | some low, some high => [.between low high]
    | _, _ => []

theorem contains_single (c d : Char) : (CharSet.single c).contains d.toNat = true ↔ d = c := by
  simp only [CharSet.single, CharSet.contains, Bool.and_eq_true, decide_eq_true_eq]
  constructor
  · intro h
    exact Char.toNat_inj.mp (Nat.le_antisymm h.2 h.1)
  · rintro rfl
    exact ⟨Nat.le_refl _, Nat.le_refl _⟩

theorem contains_between (low high d : Char) :
    (CharSet.between low high).contains d.toNat = true ↔ low ≤ d ∧ d ≤ high := by
  simp only [CharSet.between, CharSet.contains, Bool.and_eq_true, decide_eq_true_eq]
  exact Iff.rfl

/-- The ASCII word characters are three ranges and the underscore. -/
theorem asciiWord_iff (d : Char) :
    d.isAlphanum = true ∨ d = '_' ↔
      ('A' ≤ d ∧ d ≤ 'Z') ∨ ('a' ≤ d ∧ d ≤ 'z') ∨ ('0' ≤ d ∧ d ≤ '9') ∨ d = '_' := by
  have hupper : d.isUpper = true ↔ 'A' ≤ d ∧ d ≤ 'Z' := decide_eq_true_iff
  have hlower : d.isLower = true ↔ 'a' ≤ d ∧ d ≤ 'z' :=
    Bool.and_eq_true_iff.trans (and_congr decide_eq_true_iff decide_eq_true_iff)
  have hdigit : d.isDigit = true ↔ '0' ≤ d ∧ d ≤ '9' := Char.isDigit_iff_toNat
  show (d.isUpper || d.isLower || d.isDigit) = true ∨ d = '_' ↔ _
  rw [Bool.or_eq_true, Bool.or_eq_true, hupper, hlower, hdigit, or_assoc, or_assoc]

theorem contains_compl (s : CharSet) (n : Nat) :
    (CharSet.compl s).contains n = true ↔ ¬s.contains n = true := by
  rw [CharSet.contains, Bool.not_eq_true', Bool.not_eq_true]

theorem contains_unions (sets : List CharSet) (n : Nat) :
    (CharSet.unions sets).contains n = true ↔ ∃ s ∈ sets, s.contains n = true := by
  induction sets with
  | nil =>
      constructor
      · intro h
        exact absurd h Bool.false_ne_true
      · rintro ⟨s, hs, -⟩
        exact absurd hs List.not_mem_nil
  | cons s rest ih =>
      simp only [CharSet.unions, CharSet.contains, Bool.or_eq_true, ih, List.mem_cons, exists_eq_or_imp]

/-- **The sets of an atom contain what it stands for.** -/
theorem ClassAtom.contains_sets (a : ClassAtom) (d : Char) :
    (∃ s ∈ a.sets, s.contains d.toNat = true) ↔ a.Holds d := by
  have hsingle : ∀ c, (∃ s ∈ [CharSet.single c], s.contains d.toNat = true) ↔ some c = some d := by
    intro c
    simp only [List.mem_singleton, exists_eq_left, contains_single, Option.some.injEq]
    exact eq_comm
  cases a with
  | plain c ordinary | escaped c punctuation => exact hsingle c
  | backspace => exact hsingle '\x08'
  | shorthand s =>
      cases s with
      | digit =>
          simp only [sets, List.mem_singleton, exists_eq_left, contains_between]
          exact Char.isDigit_iff_toNat.symm
      | notDigit =>
          simp only [sets, List.mem_singleton, exists_eq_left, contains_compl, contains_between]
          exact not_congr Char.isDigit_iff_toNat.symm
      | word =>
          simp only [sets, List.mem_cons, List.not_mem_nil, or_false, exists_eq_or_imp, exists_eq_left,
            contains_between, contains_single]
          exact (asciiWord_iff d).symm
      | notWord =>
          simp only [sets, List.mem_cons, List.not_mem_nil, or_false, exists_eq_or_imp, exists_eq_left,
            contains_compl, contains_unions, contains_between, contains_single]
          refine not_congr (Iff.trans ?_ (asciiWord_iff d).symm)
          constructor
          · rintro (hdigit | hupper | hline | hlower)
            · exact .inr (.inr (.inl hdigit))
            · exact .inl hupper
            · exact .inr (.inr (.inr hline))
            · exact .inr (.inl hlower)
          · rintro (hupper | hlower | hdigit | hline)
            · exact .inr (.inl hupper)
            · exact .inr (.inr (.inr hlower))
            · exact .inl hdigit
            · exact .inr (.inr (.inl hline))

/-- **The sets of an item contain what it stands for.** -/
theorem ClassItem.contains_sets (i : ClassItem) (d : Char) :
    (∃ s ∈ i.sets, s.contains d.toNat = true) ↔ i.Holds d := by
  cases i with
  | one a => exact a.contains_sets d
  | range a b =>
      cases ha : a.char? with
      | none =>
          simp only [sets, Holds, ha]
          constructor
          · rintro ⟨s, hs, -⟩
            exact absurd hs List.not_mem_nil
          · rintro ⟨low, hlow, -⟩
            exact absurd hlow (Option.not_mem_none low)
      | some low =>
          cases hb : b.char? with
          | none =>
              simp only [sets, Holds, ha, hb]
              constructor
              · rintro ⟨s, hs, -⟩
                exact absurd hs List.not_mem_nil
              · rintro ⟨low, -, high, hhigh, -⟩
                exact absurd hhigh (Option.not_mem_none high)
          | some high =>
              simp only [sets, Holds, ha, hb, List.mem_singleton, exists_eq_left, contains_between]
              constructor
              · intro h
                exact ⟨low, rfl, high, rfl, h⟩
              · rintro ⟨_, hlow, _, hhigh, h⟩
                cases hlow
                cases hhigh
                exact h

/-! ## Reading -/

/-- Add several items. -/
def Bracket.OpenClass.addAll (o : OpenClass) (sets : List CharSet) : OpenClass := sets.foldl .add o

/-- **The matcher reads sets in tokens** when `rest` follows them, one set in a step. -/
structure Reads (tokens : List Bracket.Token) (sets : List CharSet) (rest : List Bracket.Token) : Prop where
  bounded : sets.length ≤ tokens.length
  steps : ∀ fuel o outer, readItems false (fuel + sets.length) o outer (tokens ++ rest) =
    readItems false fuel (o.addAll sets) outer rest

namespace Reads

theorem nil (rest : List Bracket.Token) : Reads [] [] rest := ⟨Nat.le_refl 0, fun _ _ _ => rfl⟩

theorem append {tokens tokens' rest : List Bracket.Token} {sets sets' : List CharSet}
    (h : Reads tokens sets (tokens' ++ rest)) (h' : Reads tokens' sets' rest) :
    Reads (tokens ++ tokens') (sets ++ sets') rest := by
  constructor
  · rw [List.length_append, List.length_append]
    exact Nat.add_le_add h.bounded h'.bounded
  · intro fuel o outer
    have hfuel : fuel + (sets ++ sets').length = fuel + sets'.length + sets.length := by
      rw [List.length_append]
      omega
    rw [hfuel, List.append_assoc, h.steps, h'.steps, OpenClass.addAll, OpenClass.addAll,
      OpenClass.addAll, List.foldl_append]

/-- An item is read when it makes no operator with what follows. -/
theorem item {first : Bracket.Token} {tokens rest : List Bracket.Token} {s : CharSet}
    (hclose : first ≠ .raw ']') (hopen : first ≠ .raw '[')
    (hoperator : ∀ c ∈ operators, first = .raw c → (tokens ++ rest).head? ≠ some (.raw c))
    (hrange : range? first (tokens ++ rest) = some (s, rest)) : Reads (first :: tokens) [s] rest := by
  constructor
  · exact Nat.succ_le_succ (Nat.zero_le _)
  · intro fuel o outer
    show readItems false (fuel + 1) o outer (first :: (tokens ++ rest)) = _
    rw [readItems.eq_def]
    dsimp only
    -- one case for each thing that the reader tries before it takes the token for an item
    split
    · contradiction
    · rename_i heq
      exact absurd (List.cons.inj heq).1 hclose
    · rename_i more heq
      obtain ⟨hfirst, hmore⟩ := List.cons.inj heq
      exact absurd (by rw [hmore]; rfl) (hoperator '&' (by decide) hfirst)
    · rename_i more heq
      obtain ⟨hfirst, hmore⟩ := List.cons.inj heq
      exact absurd (by rw [hmore]; rfl) (hoperator '-' (by decide) hfirst)
    · rename_i more heq
      obtain ⟨hfirst, hmore⟩ := List.cons.inj heq
      exact absurd (by rw [hmore]; rfl) (hoperator '~' (by decide) hfirst)
    · rename_i heq
      exact absurd (List.cons.inj heq).1 hopen
    · rename_i heq
      obtain ⟨rfl, rfl⟩ := List.cons.inj heq
      rw [hrange]
      rfl

/-- An ASCII class is read as a whole. -/
theorem named {name : List Bracket.Token} {s : CharSet} {rest : List Bracket.Token}
    (hname : asciiClass? false (name ++ rest) = some (s, rest)) :
    Reads (.raw '[' :: .raw ':' :: name) [s] rest := by
  constructor
  · exact Nat.succ_le_succ (Nat.zero_le _)
  · intro fuel o outer
    show readItems false (fuel + 1) o outer (.raw '[' :: .raw ':' :: (name ++ rest)) = _
    rw [readItems]
    simp only [hname]
    rfl

end Reads

/-- Tokens that make no range of what stands before them. -/
def Settled (rest : List Bracket.Token) : Prop := ∀ first, range? first rest = some (first.toSet, rest)

theorem settled_close (after : List Bracket.Token) : Settled (.raw ']' :: after) := fun _ => rfl

theorem settled_hyphen (after : List Bracket.Token) : Settled (.raw '-' :: .raw ']' :: after) := fun _ => rfl

theorem settled_of_head {rest : List Bracket.Token} (h : rest.head? ≠ some (.raw '-')) : Settled rest := by
  intro first
  unfold range?
  split
  all_goals first
    | rfl
    | exact absurd rfl h

/-- A range is read when its ends are in order. -/
theorem range?_range {t u : Bracket.Token} {low high : Char} {rest : List Bracket.Token}
    (ht : t.char? = some low) (hu : u.char? = some high) (hle : low ≤ high) (hclose : u ≠ .raw ']')
    (hhyphen : u ≠ .raw '-') :
    range? t (.raw '-' :: u :: rest) = some (.between low high, rest) := by
  unfold range?
  split
  · rename_i heq
    exact absurd (List.cons.inj (List.cons.inj heq).2).1 hclose
  · rename_i heq
    exact absurd (List.cons.inj (List.cons.inj heq).2).1 hhyphen
  · rename_i heq
    obtain ⟨rfl, rfl⟩ := List.cons.inj (List.cons.inj heq).2
    rw [ht, hu]
    exact if_pos hle
  · rename_i heq
    exact absurd (List.cons.inj heq).2 (by simp)
  · rename_i hother _
    exact absurd rfl (hother u rest)

/-! ## Items -/

theorem isPlain_close (a : ClassAtom) : a.isPlain ']' = false := by
  cases a with
  | plain c ordinary => exact beq_eq_false_iff_ne.mpr ordinary.2
  | _ => rfl

/-- An atom that is a character is one token, which opens and closes nothing. -/
theorem exists_token {a : ClassAtom} {c : Char} (h : a.char? = some c) :
    ∃ t, a.tokens = [t] ∧ t.char? = some c ∧ t ≠ .raw '[' ∧ a.sets = [t.toSet] ∧
      ∀ d, t = .raw d → a.isPlain d = true := by
  cases a with
  | plain d ordinary =>
      obtain rfl : d = c := Option.some.inj h
      by_cases hopen : d = '['
      · subst hopen
        exact ⟨_, rfl, rfl, Bracket.Token.noConfusion, rfl, fun d heq => Bracket.Token.noConfusion heq⟩
      · simp only [ClassAtom.tokens, if_neg hopen]
        exact ⟨_, rfl, rfl, fun heq => hopen (Bracket.Token.raw.inj heq), rfl,
          fun e heq => beq_iff_eq.mpr (Bracket.Token.raw.inj heq)⟩
  | escaped d punctuation =>
      obtain rfl : d = c := Option.some.inj h
      exact ⟨_, rfl, rfl, Bracket.Token.noConfusion, rfl, fun d heq => Bracket.Token.noConfusion heq⟩
  | backspace =>
      obtain rfl := Option.some.inj h
      exact ⟨_, rfl, rfl, Bracket.Token.noConfusion, rfl, fun d heq => Bracket.Token.noConfusion heq⟩
  | shorthand s => exact absurd h (by simp [ClassAtom.char?])

/-- An atom begins with a token that tells it from all but three others. -/
theorem exists_tokens (a : ClassAtom) :
    ∃ t ts, a.tokens = t :: ts ∧ ∀ d, d ∉ ['[', '0', 'A'] → t = .raw d → a.isPlain d = true := by
  have hraw : ∀ c d, d ∉ ['[', '0', 'A'] → c ∈ ['[', '0', 'A'] → Bracket.Token.raw c ≠ .raw d := by
    rintro c d hd hc heq
    exact hd (Bracket.Token.raw.inj heq ▸ hc)
  cases hchar : a.char? with
  | some c =>
      obtain ⟨t, htokens, -, -, -, hplain⟩ := exists_token hchar
      exact ⟨t, [], htokens, fun d _ heq => hplain d heq⟩
  | none =>
      cases a with
      | shorthand s =>
          cases s with
          | digit | notDigit | word | notWord =>
              exact ⟨_, _, rfl, fun d hd heq => absurd heq (hraw _ d hd (by decide))⟩
      | plain | escaped | backspace => exact absurd hchar (Option.some_ne_none _)

/-- Tokens that make a range are read as one. -/
theorem Reads.range {t u : Bracket.Token} {low high : Char} {rest : List Bracket.Token}
    (ht : t.char? = some low) (hu : u.char? = some high) (hle : low ≤ high)
    (hbracket : t ≠ .raw ']' ∧ t ≠ .raw '[') (hhyphen : t ≠ .raw '-') (hbracket' : u ≠ .raw ']')
    (hhyphen' : u ≠ .raw '-') :
    Reads [t, .raw '-', u] [.between low high] rest := by
  refine .item hbracket.1 hbracket.2 ?_ (range?_range ht hu hle hbracket' hhyphen')
  intro c _ hfirst hhead
  have hc : '-' = c := Bracket.Token.raw.inj (Option.some.inj hhead)
  exact hhyphen (hc ▸ hfirst)

/-- **An atom by itself** is read when what follows makes neither a range nor an operator of it. -/
theorem reads_one (a : ClassAtom) {rest : List Bracket.Token} (hsettled : Settled rest)
    (hoperator : ∀ c ∈ operators, a.isPlain c = true → rest.head? ≠ some (.raw c)) :
    Reads a.tokens a.sets rest := by
  have hchar : ∀ c, a.char? = some c → Reads a.tokens a.sets rest := by
    intro c hc
    obtain ⟨t, htokens, -, hopen, hsets, hplain⟩ := exists_token hc
    have hclose : t ≠ .raw ']' := fun heq => absurd (hplain ']' heq) (by rw [isPlain_close]; decide)
    rw [htokens, hsets]
    exact .item hclose hopen (fun d hd heq => hoperator d hd (hplain d heq)) (hsettled t)
  have hrange : ∀ low high {rest'}, low ≤ high → (low ≠ ']' ∧ low ≠ '[' ∧ low ≠ '-') →
      (high ≠ ']' ∧ high ≠ '-') →
      Reads [.raw low, .raw '-', .raw high] [.between low high] rest' := by
    rintro low high rest' hle ⟨hclose, hopen, hhyphen⟩ ⟨hclose', hhyphen'⟩
    exact .range rfl rfl hle ⟨hclose ∘ Bracket.Token.raw.inj, hopen ∘ Bracket.Token.raw.inj⟩
      (hhyphen ∘ Bracket.Token.raw.inj) (hclose' ∘ Bracket.Token.raw.inj)
      (hhyphen' ∘ Bracket.Token.raw.inj)
  cases a with
  | plain c ordinary | escaped c punctuation => exact hchar c rfl
  | backspace => exact hchar '\x08' rfl
  | shorthand s =>
      cases s with
      | digit => exact hrange '0' '9' (by decide) (by decide) (by decide)
      | notDigit => exact .named rfl
      | word =>
          have hline : Reads [.raw '_'] [.single '_'] rest := by
            refine .item (by simp) (by simp) ?_ (hsettled _)
            intro c hc hfirst
            cases hfirst
            exact absurd hc (by decide)
          have hdigit := (hrange '0' '9' (by decide) (by decide) (by decide)).append hline
          have hlower := (hrange 'a' 'z' (by decide) (by decide) (by decide)).append hdigit
          exact (hrange 'A' 'Z' (by decide) (by decide) (by decide)).append hlower
      | notWord => exact .named rfl

/-- **A range** is read when none of its ends is a hyphen. -/
theorem reads_range {a b : ClassAtom} {rest : List Bracket.Token} (hordered : (ClassItem.range a b).Ordered)
    (ha : a.isPlain '-' = false) (hb : b.isPlain '-' = false) :
    Reads (a.tokens ++ .raw '-' :: b.tokens) (ClassItem.range a b).sets rest := by
  obtain ⟨low, hlow, high, hhigh, hle⟩ := hordered
  obtain ⟨t, ht, htchar, htopen, -, htplain⟩ := exists_token hlow
  obtain ⟨u, hu, huchar, -, -, huplain⟩ := exists_token hhigh
  have hno : ∀ {a : ClassAtom} {t : Bracket.Token} {d : Char}, (t = .raw d → a.isPlain d = true) →
      a.isPlain d = false → t ≠ .raw d := by
    intro a t d hplain hfalse heq
    exact Bool.false_ne_true (hfalse.symm.trans (hplain heq))
  rw [ht, hu, ClassItem.sets, hlow, hhigh]
  exact .range htchar huchar hle ⟨hno (htplain ']') (isPlain_close a), htopen⟩ (hno (htplain '-') ha)
    (hno (huplain ']') (isPlain_close b)) (hno (huplain '-') hb)

theorem operatorFree_one {a : ClassAtom} {items : List ClassItem}
    (h : operatorFree (.one a :: items) = true) :
    (∀ c ∈ operators, a.isPlain c = true → items.head?.any (fun i => i.first.isPlain c) = false) ∧
      operatorFree items = true := by
  rw [operatorFree, Bool.and_eq_true, List.all_eq_true] at h
  refine ⟨fun c hc ha => ?_, h.2⟩
  have hboth := h.1 c hc
  rw [ha, Bool.true_and, Bool.not_eq_true'] at hboth
  exact hboth

theorem head?_ofAtoms (as : List ClassAtom) :
    (ClassItem.ofAtoms as).head?.map ClassItem.first = as.head? := by
  fun_cases ClassItem.ofAtoms as <;> rfl

/-- A token behind atoms, other than the closing bracket, tells what atom comes first. -/
theorem head?_tokens {as : List ClassAtom} {after : List Bracket.Token} {d : Char}
    (hd : d ∉ ['[', '0', 'A', ']'])
    (h : (as.flatMap ClassAtom.tokens ++ .raw ']' :: after).head? = some (.raw d)) :
    ∃ a more, as = a :: more ∧ a.isPlain d = true := by
  have hclose : ']' ≠ d := by
    rintro rfl
    exact absurd hd (by decide)
  cases as with
  | nil => exact absurd (Bracket.Token.raw.inj (Option.some.inj h)) hclose
  | cons a more =>
      obtain ⟨t, ts, htokens, hplain⟩ := exists_tokens a
      rw [List.flatMap_cons, htokens] at h
      refine ⟨a, more, rfl, hplain d (fun hmem => hd ?_) (Option.some.inj h)⟩
      exact List.mem_append_left [']'] hmem

/-- An atom by itself is read before other atoms, where the two make no operator. -/
theorem reads_before {a : ClassAtom} {more : List ClassAtom} {after : List Bracket.Token}
    (hfree : operatorFree (.one a :: ClassItem.ofAtoms more) = true)
    (hsettled : Settled (more.flatMap ClassAtom.tokens ++ .raw ']' :: after)) :
    Reads a.tokens a.sets (more.flatMap ClassAtom.tokens ++ .raw ']' :: after) := by
  refine reads_one a hsettled fun c hc ha hhead => ?_
  have hmark : c ∉ ['[', '0', 'A', ']'] := by
    simp only [operators, List.mem_cons, List.not_mem_nil, or_false] at hc
    rcases hc with rfl | rfl | rfl <;> decide
  obtain ⟨b, more', rfl, hb⟩ := head?_tokens hmark hhead
  obtain ⟨i, hi, hfirst⟩ := Option.map_eq_some_iff.mp (head?_ofAtoms (b :: more'))
  have hnone := (operatorFree_one hfree).1 c hc ha
  rw [hi, Option.any_some, hfirst, hb] at hnone
  exact Bool.false_ne_true hnone.symm

/-- A hyphen right before the closing bracket makes no range. -/
theorem settled_tokens {b : ClassAtom} {more : List ClassAtom} (after : List Bracket.Token)
    (hlast : b.isPlain '-' = true → more = []) :
    Settled ((b :: more).flatMap ClassAtom.tokens ++ .raw ']' :: after) := by
  by_cases hb : b.isPlain '-' = true
  · obtain ⟨ordinary, rfl⟩ := ClassAtom.exists_of_isPlain hb
    rw [hlast hb]
    exact settled_hyphen after
  · refine settled_of_head fun hhead => ?_
    obtain ⟨b', more', heq, hb'⟩ := head?_tokens (by decide) hhead
    obtain ⟨rfl, rfl⟩ := List.cons.inj heq
    exact hb hb'

/-- **The matcher reads the items that the schema wrote**, where no operator is met. -/
theorem reads_atoms (as : List ClassAtom) (after : List Bracket.Token)
    (hordered : ∀ i ∈ ClassItem.ofAtoms as, i.Ordered)
    (hfree : operatorFree (ClassItem.ofAtoms as) = true) :
    Reads (as.flatMap ClassAtom.tokens) ((ClassItem.ofAtoms as).flatMap ClassItem.sets)
      (.raw ']' :: after) := by
  -- the induction follows how atoms make items, so that each case reads one item
  fun_induction ClassItem.ofAtoms as with
  | case1 => exact .nil _
  | case2 a => exact (@reads_before a [] after hfree (settled_close after)).append (.nil _)
  | case3 a b ih =>
      obtain ⟨-, hrest⟩ := List.forall_mem_cons.mp hordered
      have hfirst := @reads_before a [b] after hfree (settled_tokens after fun _ => rfl)
      exact hfirst.append (ih hrest (operatorFree_one hfree).2)
  | case4 a h b rest hhyphen ih =>
      obtain ⟨ordinary, rfl⟩ := ClassAtom.exists_of_isPlain hhyphen
      obtain ⟨hrange, hrest⟩ := List.forall_mem_cons.mp hordered
      simp only [operatorFree, Bool.and_eq_true, Bool.not_eq_true'] at hfree
      obtain ⟨⟨ha, hb⟩, hfree⟩ := hfree
      have hread := (reads_range hrange ha hb).append (ih hrest hfree)
      rw [List.append_assoc] at hread
      exact hread
  | case5 a h b rest hhyphen ih =>
      obtain ⟨-, hrest⟩ := List.forall_mem_cons.mp hordered
      have hsettled := @settled_tokens h (b :: rest) after fun hh => absurd hh hhyphen
      exact (reads_before hfree hsettled).append (ih hrest (operatorFree_one hfree).2)

/-! ## Opening -/

/-- The first tokens of a class that are hyphens are those of its first atoms. -/
theorem dropWhile_tokens {p : Bracket.Token → Bool} (hhyphen : p (.raw '-') = true)
    (hother : ∀ t, p t = true → t = .raw '-') (as : List ClassAtom) :
    (bodyTokens as).dropWhile p = bodyTokens (as.dropWhile (ClassAtom.isPlain '-')) := by
  induction as with
  | nil =>
      have hclose : ¬p (.raw ']') = true := fun h => absurd (Bracket.Token.raw.inj (hother _ h)) (by decide)
      exact List.dropWhile_cons_of_neg hclose
  | cons a rest ih =>
      by_cases ha : a.isPlain '-' = true
      · rw [List.dropWhile_cons_of_pos ha, ← ih]
        obtain ⟨ordinary, rfl⟩ := ClassAtom.exists_of_isPlain ha
        exact List.dropWhile_cons_of_pos hhyphen
      · rw [List.dropWhile_cons_of_neg ha]
        obtain ⟨t, ts, htokens, hplain⟩ := exists_tokens a
        have ht : ¬p t = true := fun h => ha (hplain '-' (by decide) (hother t h))
        rw [bodyTokens, List.flatMap_cons, htokens]
        exact List.dropWhile_cons_of_neg ht

/-- **The start of a class.** The hyphens that it begins with stand for one, and are left out. -/
theorem opening_written (c : WrittenClass) (hne : c.atoms ≠ []) :
    opening ((if c.complemented then [.raw '^'] else []) ++ bodyTokens c.atoms) =
      (⟨c.complemented, none,
          if c.atoms.head?.any (ClassAtom.isPlain '-') then .single '-' else .empty⟩,
        bodyTokens (c.atoms.dropWhile (ClassAtom.isPlain '-'))) := by
  obtain ⟨complemented, atoms, caret⟩ := c
  obtain ⟨a, more, rfl⟩ := List.exists_cons_of_ne_nil hne
  obtain ⟨t, ts, htokens, hplain⟩ := exists_tokens a
  have hbody : bodyTokens (a :: more) = t :: (ts ++ more.flatMap ClassAtom.tokens ++ [.raw ']']) := by
    rw [bodyTokens, List.flatMap_cons, htokens, List.cons_append, List.cons_append]
  unfold opening
  split
  rename_i negated tokens heq
  -- a caret is one of a complemented class
  have hparts : complemented = negated ∧ bodyTokens (a :: more) = tokens := by
    cases complemented with
    | true =>
        obtain ⟨rfl, rfl⟩ := Prod.mk.inj heq
        exact ⟨rfl, rfl⟩
    | false =>
        have hcaret : t ≠ .raw '^' := fun h =>
          Bool.false_ne_true ((caret rfl a rfl).symm.trans (hplain '^' (by decide) h))
        dsimp only at heq
        rw [if_neg Bool.false_ne_true, List.nil_append, hbody] at heq
        rw [hbody]
        split at heq
        · rename_i hhead
          exact absurd (List.cons.inj hhead).1 hcaret
        · exact Prod.mk.inj heq
  obtain ⟨rfl, rfl⟩ := hparts
  dsimp only
  -- hyphens come next, and a closing bracket is a member only where there are none
  rw [dropWhile_tokens rfl]
  · by_cases ha : a.isPlain '-' = true
    · have hlead : ((a :: more).head?.any (ClassAtom.isPlain '-')) = true := ha
      rw [if_pos hlead]
      obtain ⟨ordinary, rfl⟩ := ClassAtom.exists_of_isPlain ha
      rfl
    · have hlead : ¬((a :: more).head?.any (ClassAtom.isPlain '-')) = true := ha
      rw [if_neg hlead, List.dropWhile_cons_of_neg ha, hbody]
      have hhyphen : t ≠ .raw '-' := fun h => ha (hplain '-' (by decide) h)
      have hclose : t ≠ .raw ']' := fun h =>
        Bool.false_ne_true ((isPlain_close a).symm.trans (hplain ']' (by decide) h))
      rw [List.takeWhile_cons_of_neg]
      · split
        · rename_i hhead
          exact absurd (List.cons.inj hhead).1 hclose
        · rfl
        · rename_i hhyphens
          exact absurd hhyphens (List.cons_ne_nil _ _).symm
      · split
        · exact absurd rfl hhyphen
        · exact Bool.false_ne_true
  · intro u hu
    split at hu
    · rfl
    · exact absurd hu Bool.false_ne_true

/-- What consists of hyphens stands for the hyphen. -/
theorem holds_isHyphens {i : ClassItem} (h : i.isHyphens = true) (d : Char) : i.Holds d ↔ d = '-' := by
  cases i with
  | one a =>
      obtain ⟨ordinary, rfl⟩ := ClassAtom.exists_of_isPlain h
      exact ⟨fun hd => (Option.some.inj hd).symm, fun hd => congrArg some hd.symm⟩
  | range a b =>
      obtain ⟨ha, hb⟩ := Bool.and_eq_true_iff.mp h
      obtain ⟨_, rfl⟩ := ClassAtom.exists_of_isPlain ha
      obtain ⟨_, rfl⟩ := ClassAtom.exists_of_isPlain hb
      constructor
      · rintro ⟨low, hlow, high, hhigh, hle, hge⟩
        cases hlow
        cases hhigh
        exact Char.le_antisymm hge hle
      · rintro rfl
        exact ⟨'-', rfl, '-', rfl, Char.le_refl _, Char.le_refl _⟩

theorem holds_dropWhile (items : List ClassItem) (d : Char) :
    (∃ i ∈ items, i.Holds d) ↔
      (items.head?.any ClassItem.isHyphens = true ∧ d = '-') ∨
        ∃ i ∈ items.dropWhile ClassItem.isHyphens, i.Holds d := by
  induction items with
  | nil => exact ⟨.inr, fun h => h.elim (fun h => absurd h.1 Bool.false_ne_true) id⟩
  | cons i rest ih =>
      by_cases hi : i.isHyphens = true
      · have hhead : (i :: rest).head?.any ClassItem.isHyphens = true := hi
        simp only [List.dropWhile_cons_of_pos hi, List.mem_cons, exists_eq_or_imp, holds_isHyphens hi, ih]
        constructor
        · rintro (hd | ⟨-, hd⟩ | hrest)
          · exact .inl ⟨hhead, hd⟩
          · exact .inl ⟨hhead, hd⟩
          · exact .inr hrest
        · rintro (⟨-, hd⟩ | hrest)
          · exact .inl hd
          · exact .inr (.inr hrest)
      · rw [List.dropWhile_cons_of_neg hi]
        exact ⟨.inr, fun h => h.elim (fun h => absurd h.1 hi) id⟩

/-- Where no operator is met behind the hyphens at the start of a class, none of them ends a range that
goes on to something else. -/
theorem isHyphens_range {a b : ClassAtom} {items : List ClassItem}
    (hfree : operatorFree ((ClassItem.range a b :: items).dropWhile ClassItem.isHyphens) = true) :
    a.isPlain '-' = true → b.isPlain '-' = true := by
  intro ha
  cases hb : b.isPlain '-' with
  | true => rfl
  | false =>
      have hneg : ¬(ClassItem.range a b).isHyphens = true := fun h =>
        Bool.false_ne_true (hb.symm.trans (Bool.and_eq_true_iff.mp h).2)
      rw [List.dropWhile_cons_of_neg hneg, operatorFree, ha] at hfree
      exact hfree

/-- **Hyphens at the start of a class** are items of their own, where no operator is met behind them. -/
theorem dropWhile_ofAtoms {as : List ClassAtom}
    (hfree : operatorFree ((ClassItem.ofAtoms as).dropWhile ClassItem.isHyphens) = true) :
    (ClassItem.ofAtoms as).dropWhile ClassItem.isHyphens =
      ClassItem.ofAtoms (as.dropWhile (ClassAtom.isPlain '-')) := by
  have hone : ∀ {a more}, ClassItem.ofAtoms (a :: more) = .one a :: ClassItem.ofAtoms more →
      (operatorFree ((ClassItem.ofAtoms more).dropWhile ClassItem.isHyphens) = true →
        (ClassItem.ofAtoms more).dropWhile ClassItem.isHyphens =
          ClassItem.ofAtoms (more.dropWhile (ClassAtom.isPlain '-'))) →
      operatorFree ((ClassItem.one a :: ClassItem.ofAtoms more).dropWhile ClassItem.isHyphens) = true →
      (ClassItem.one a :: ClassItem.ofAtoms more).dropWhile ClassItem.isHyphens =
        ClassItem.ofAtoms ((a :: more).dropWhile (ClassAtom.isPlain '-')) := by
    intro a more hitems ih hfree
    by_cases ha : a.isPlain '-' = true
    · have hi : (ClassItem.one a).isHyphens = true := ha
      rw [List.dropWhile_cons_of_pos hi] at hfree ⊢
      rw [List.dropWhile_cons_of_pos ha]
      exact ih hfree
    · have hi : ¬(ClassItem.one a).isHyphens = true := ha
      rw [List.dropWhile_cons_of_neg hi, List.dropWhile_cons_of_neg ha, hitems]
  -- a hyphen by itself and a range of hyphens are left out on either side; all else ends both
  fun_induction ClassItem.ofAtoms as with
  | case1 => rfl
  | case2 a => exact @hone a [] rfl (fun _ => rfl) hfree
  | case3 a b ih => exact @hone a [b] rfl ih hfree
  | case4 a h b rest hhyphen ih =>
      by_cases ha : a.isPlain '-' = true
      · have hb := isHyphens_range hfree ha
        have hi : (ClassItem.range a b).isHyphens = true := Bool.and_eq_true_iff.mpr ⟨ha, hb⟩
        rw [List.dropWhile_cons_of_pos hi] at hfree ⊢
        rw [List.dropWhile_cons_of_pos ha, List.dropWhile_cons_of_pos hhyphen, List.dropWhile_cons_of_pos hb]
        exact ih hfree
      · have hi : ¬(ClassItem.range a b).isHyphens = true := fun h => ha (Bool.and_eq_true_iff.mp h).1
        rw [List.dropWhile_cons_of_neg hi, List.dropWhile_cons_of_neg ha, ClassItem.ofAtoms, if_pos hhyphen]
  | case5 a h b rest hhyphen ih => exact hone (by rw [ClassItem.ofAtoms, if_neg hhyphen]) ih hfree

theorem head?_isHyphens {as : List ClassAtom}
    (hfree : operatorFree ((ClassItem.ofAtoms as).dropWhile ClassItem.isHyphens) = true) :
    (ClassItem.ofAtoms as).head?.any ClassItem.isHyphens = as.head?.any (ClassAtom.isPlain '-') := by
  fun_cases ClassItem.ofAtoms as with
  | case4 a h b rest hhyphen =>
      rw [ClassItem.ofAtoms, if_pos hhyphen] at hfree
      show (a.isPlain '-' && b.isPlain '-') = a.isPlain '-'
      cases ha : a.isPlain '-' with
      | true => exact isHyphens_range hfree ha
      | false => rfl
  | _ => rfl

/-! ## Classes -/

/-- Adding items leaves all else of a class as it is. -/
theorem contains_addAll (o : OpenClass) (sets : List CharSet) (n : Nat) :
    (o.addAll sets).negated = o.negated ∧ (o.addAll sets).left = o.left ∧
      ((o.addAll sets).items.contains n = true ↔
        o.items.contains n = true ∨ ∃ s ∈ sets, s.contains n = true) := by
  induction sets generalizing o with
  | nil => exact ⟨rfl, rfl, by simp [OpenClass.addAll]⟩
  | cons s rest ih =>
      obtain ⟨hnegated, hleft, hitems⟩ := ih (o.add s)
      refine ⟨hnegated, hleft, hitems.trans ?_⟩
      simp only [OpenClass.add, CharSet.contains, Bool.or_eq_true, List.mem_cons, exists_eq_or_imp, or_assoc]

/-- What a class contains that is read to its end without an operator. -/
theorem contains_close {o : OpenClass} (hleft : o.left = none) (sets : List CharSet) (n : Nat) :
    ((o.addAll sets).close false).contains n = true ↔
      if o.negated then ¬(o.items.contains n = true ∨ ∃ s ∈ sets, s.contains n = true)
      else o.items.contains n = true ∨ ∃ s ∈ sets, s.contains n = true := by
  obtain ⟨hnegated, hleft', hitems⟩ := contains_addAll o sets n
  have hjoined : (o.addAll sets).joined false = (o.addAll sets).items := by
    rw [OpenClass.joined, hleft', hleft]
  rw [OpenClass.close, hjoined, hnegated, ← hitems]
  cases o.negated with
  | true => exact contains_compl _ n
  | false => exact Iff.rfl

/-- **The matcher reads what the schema wrote.** Where no operator is met in a class that is not empty, the
set that the matcher reads in its tokens contains what the class holds. -/
theorem read?_written (c : WrittenClass) (hne : c.atoms ≠ []) (hordered : ∀ i ∈ c.items, i.Ordered)
    (hfree : c.isOperatorFree = true) :
    ∃ s, read? false ((if c.complemented then [.raw '^'] else []) ++ bodyTokens c.atoms) = some (s, []) ∧
      ∀ d : Char, s.contains d.toNat = true ↔ c.Holds d := by
  -- the hyphens at the start stand for themselves, and the matcher reads the items behind them
  have hrest := dropWhile_ofAtoms hfree
  have hhead := head?_isHyphens hfree
  have hread := reads_atoms (c.atoms.dropWhile (ClassAtom.isPlain '-')) []
    (fun i hi => hordered i ((List.dropWhile_sublist _).subset (hrest ▸ hi))) (hrest ▸ hfree)
  have hholds : ∀ d, (∃ i ∈ c.items, i.Holds d) ↔
      (c.atoms.head?.any (ClassAtom.isPlain '-') = true ∧ d = '-') ∨
        ∃ i ∈ ClassItem.ofAtoms (c.atoms.dropWhile (ClassAtom.isPlain '-')), i.Holds d := by
    intro d
    rw [holds_dropWhile c.items d, WrittenClass.items, hrest, hhead]
  generalize ClassItem.ofAtoms (c.atoms.dropWhile (ClassAtom.isPlain '-')) = items at hread hholds
  -- as many steps are needed as there are tokens, at most
  have hlength : ((c.atoms.dropWhile (ClassAtom.isPlain '-')).flatMap ClassAtom.tokens).length ≤
      (c.atoms.flatMap ClassAtom.tokens).length := by
    have hwhole := List.takeWhile_append_dropWhile (p := ClassAtom.isPlain '-') (l := c.atoms)
    rw [← congrArg (fun l => (l.flatMap ClassAtom.tokens).length) hwhole, List.flatMap_append,
      List.length_append]
    exact Nat.le_add_left _ _
  obtain ⟨fuel, hfuel⟩ : ∃ fuel,
      ((if c.complemented then [Bracket.Token.raw '^'] else []) ++ bodyTokens c.atoms).length + 1 =
        fuel + 1 + (items.flatMap ClassItem.sets).length := by
    have hbounded := hread.bounded
    refine ⟨((if c.complemented then [Bracket.Token.raw '^'] else []) ++ bodyTokens c.atoms).length -
      (items.flatMap ClassItem.sets).length, ?_⟩
    rw [bodyTokens, List.length_append, List.length_append]
    omega
  have hsets : ∀ d, (∃ s ∈ items.flatMap ClassItem.sets, s.contains d.toNat = true) ↔
      ∃ i ∈ items, i.Holds d := by
    intro d
    constructor
    · rintro ⟨s, hs, hd⟩
      obtain ⟨i, hi, hmem⟩ := List.mem_flatMap.mp hs
      exact ⟨i, hi, (i.contains_sets d).mp ⟨s, hmem, hd⟩⟩
    · rintro ⟨i, hi, hd⟩
      obtain ⟨s, hs, hcontains⟩ := (i.contains_sets d).mpr hd
      exact ⟨s, List.mem_flatMap.mpr ⟨i, hi, hs⟩, hcontains⟩
  have hstart : ∀ d : Char, (if c.atoms.head?.any (ClassAtom.isPlain '-') then CharSet.single '-'
      else .empty).contains d.toNat = true ↔
        c.atoms.head?.any (ClassAtom.isPlain '-') = true ∧ d = '-' := by
    intro d
    split
    · rename_i h
      exact (contains_single '-' d).trans ⟨fun hd => ⟨h, hd⟩, And.right⟩
    · rename_i h
      exact ⟨fun hd => absurd hd Bool.false_ne_true, fun hd => absurd hd.1 h⟩
  rw [read?, opening_written c hne]
  dsimp only
  rw [hfuel, bodyTokens, hread.steps]
  refine ⟨_, rfl, fun d => ?_⟩
  rw [contains_close rfl, hsets, hstart, ← hholds]
  exact Iff.rfl

end JsonSchema.Pattern
