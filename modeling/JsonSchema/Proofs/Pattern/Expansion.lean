import JsonSchema.Pattern.Dialect

/-!
# `JsonSchema.Proofs.Pattern.Expansion` — the shape of an expanded pattern

Expansion goes through a pattern piece by piece: a backslash takes the character after it along, every
other character stands alone, and whether a piece is in a class is all that is remembered. What replaces
a piece is read as whole pieces again, so an expanded pattern has its pieces where the pattern has them.
None of them is an escape that means something else to the matcher, and where the pattern has no such
escape, and no bracket that opens inside a class, expansion changes nothing.

## Contents
- **Pieces.** `Piece`, `pieces`, `scanFrom` (where a scan comes to), and `piece_induction`.
- **One piece.** `Piece.expansion`, `Piece.Kept`: a piece is left as it stands, or grows
  (`of_not_kept`).
- **Joined texts.** `expandFrom_append`, `pieces_append`, and `mem_pieces_iff`: where a piece stands.
- **Shape.** `pair_not_mem_pieces`, `exists_of_notBoundary`, `expandFrom_eq_self_iff`, and the main
  statement `expand_shape`.
-/

namespace JsonSchema.Pattern.Dialect

/-! ## Pieces -/

/-- What is read of a pattern at once: a backslash with the character after it, or a character alone. -/
inductive Piece where
  | pair (c : Char)
  | single (c : Char)
deriving DecidableEq

/-- The pieces of a pattern, from left to right. A backslash at the very end stands alone. -/
def pieces : List Char → List Piece
  | [] => []
  | ['\\'] => [.single '\\']
  | '\\' :: c :: rest => .pair c :: pieces rest
  | c :: rest => .single c :: pieces rest

namespace Piece

/-- How a piece is written. -/
def text : Piece → List Char
  | .pair c => ['\\', c]
  | .single c => [c]

/-- Whether a class is open behind a piece. Classes do not nest, and an escaped bracket is none. -/
def next (inClass : Bool) : Piece → Bool
  | .pair _ => inClass
  | .single c => if c = '[' then true else if c = ']' then false else inClass

end Piece

/-- Whether a class is open at the end of a text, given whether one is open at its start; `none` where
the text ends in a backslash that has no character after it. -/
def scanFrom : Bool → List Char → Option Bool
  | inClass, [] => some inClass
  | _, ['\\'] => none
  | inClass, '\\' :: c :: rest => scanFrom ((Piece.pair c).next inClass) rest
  | inClass, c :: rest => scanFrom ((Piece.single c).next inClass) rest

/-- **Induction over the pieces of a text**, of which a backslash without a character can only be the
last. -/
@[elab_as_elim]
theorem piece_induction {motive : List Char → Prop} (nil : motive []) (dangling : motive ['\\'])
    (piece : ∀ (x : Piece) (rest : List Char), x ≠ .single '\\' → motive rest → motive (x.text ++ rest))
    (cs : List Char) : motive cs := by
  induction cs using pieces.induct with
  | case1 => exact nil
  | case2 => exact dangling
  | case3 c rest ih => exact piece (.pair c) rest (by simp) ih
  | case4 c rest hend hpair ih =>
      refine piece (.single c) rest ?_ ih
      rintro ⟨⟩
      cases rest with
      | nil => exact hend rfl rfl
      | cons d rest => exact hpair d rest rfl rfl

section Step

variable {x : Piece} (hx : x ≠ .single '\\') (inClass : Bool) (rest : List Char)
include hx

theorem pieces_step : pieces (x.text ++ rest) = x :: pieces rest := by
  cases x with
  | pair c => rfl
  | single c =>
      have hc : c ≠ '\\' := fun h => hx (congrArg Piece.single h)
      show pieces (c :: rest) = _
      rw [pieces]
      all_goals
        intros
        contradiction

theorem scanFrom_step : scanFrom inClass (x.text ++ rest) = scanFrom (x.next inClass) rest := by
  cases x with
  | pair c => exact scanFrom.eq_3 inClass c rest
  | single c =>
      have hc : c ≠ '\\' := fun h => hx (congrArg Piece.single h)
      show scanFrom inClass (c :: rest) = _
      rw [scanFrom]
      all_goals
        intros
        contradiction

end Step

/-! ## One piece -/

/-- What stands for a piece in the expanded pattern. -/
def Piece.expansion (inClass : Bool) : Piece → List Char
  | .pair c =>
    match replacement? inClass c with
    | some text => text.toList
    | none => ['\\', c]
  | .single c => if inClass = true ∧ c = '[' then ['\\', '['] else [c]

theorem expandFrom_step {x : Piece} (hx : x ≠ .single '\\') (inClass : Bool) (rest : List Char) :
    expandFrom inClass (x.text ++ rest) = x.expansion inClass ++ expandFrom (x.next inClass) rest := by
  cases x with
  | pair c => exact expandFrom.eq_3 inClass c rest
  | single c =>
      have hc : c ≠ '\\' := fun h => hx (congrArg Piece.single h)
      show expandFrom inClass (c :: rest) = _
      by_cases hopen : c = '['
      · subst hopen
        cases inClass <;> rw [expandFrom] <;> rfl
      · by_cases hclose : c = ']'
        · subst hclose
          cases inClass <;> rw [expandFrom] <;> simp [Piece.expansion, Piece.next]
        · rw [expandFrom]
          · simp [Piece.expansion, Piece.next, hopen, hclose]
          all_goals
            intros
            contradiction

/-- The letters of the escapes that mean something else to the matcher, wherever they stand. -/
def replacedLetters : List Char := ['d', 'D', 'w', 'W', 'b']

/-- An escape is replaced if its letter is one of these, or a `B` outside of a class. -/
theorem replacement?_eq_none_iff {inClass : Bool} {c : Char} :
    replacement? inClass c = none ↔ c ∉ replacedLetters ∧ (c = 'B' → inClass = true) := by
  constructor
  · intro h
    constructor
    · intro hc
      simp only [replacedLetters, List.mem_cons, List.not_mem_nil, or_false] at hc
      rcases hc with rfl | rfl | rfl | rfl | rfl <;> cases inClass <;> cases h
    · rintro rfl
      cases inClass with
      | true => rfl
      | false => cases h
  · rintro ⟨hletter, hboundary⟩
    unfold replacement?
    split
    case h_6 => exact absurd (hboundary rfl) Bool.false_ne_true
    case h_12 => rfl
    all_goals exact absurd (by decide) hletter

/-- What replaces an escape is longer, closes the classes that it opens, does not end in a backslash,
and has none of the escapes that are replaced. -/
theorem of_replacement? {inClass : Bool} {c : Char} {text : String}
    (h : replacement? inClass c = some text) :
    scanFrom false text.toList = some false ∧ 2 < text.toList.length ∧
      ∀ d ∈ 'B' :: replacedLetters, Piece.pair d ∉ pieces text.toList := by
  unfold replacement? at h
  split at h <;> cases h
  -- each letter by itself, or all characters would be tried
  all_goals
    simp only [wordBoundary, notWordBoundary, String.reduceToList, replacedLetters, List.mem_cons,
      List.not_mem_nil, or_false, forall_eq_or_imp, forall_eq]
    decide

namespace Piece

/-- The pieces that are left as they stand. -/
structure Kept (inClass : Bool) (x : Piece) : Prop where
  letter : ∀ c ∈ replacedLetters, x ≠ .pair c
  boundary : x = .pair 'B' → inClass = true
  opening : x = .single '[' → inClass = false

variable {x : Piece} {inClass : Bool}

theorem expansion_of_kept (h : x.Kept inClass) : x.expansion inClass = x.text := by
  cases x with
  | pair c =>
      have hnone : replacement? inClass c = none :=
        replacement?_eq_none_iff.mpr
          ⟨fun hc => h.letter c hc rfl, fun hc => h.boundary (congrArg Piece.pair hc)⟩
      rw [expansion, hnone]
      rfl
  | single c =>
      refine if_neg ?_
      rintro ⟨hclass, hc⟩
      exact absurd (h.opening (congrArg Piece.single hc)) (by simp [hclass])

/-- **A piece that is not left as it stands grows**, into a text that ends with its last piece and has
none of the escapes that are replaced. -/
theorem of_not_kept (h : ¬x.Kept inClass) :
    (∃ after, scanFrom false (x.expansion inClass) = some after) ∧
      x.text.length < (x.expansion inClass).length ∧
      ∀ d ∈ 'B' :: replacedLetters, .pair d ∉ pieces (x.expansion inClass) := by
  cases x with
  | pair c =>
      cases hreplaced : replacement? inClass c with
      | none =>
          obtain ⟨hletter, hboundary⟩ := replacement?_eq_none_iff.mp hreplaced
          refine absurd ⟨?_, fun heq => hboundary (pair.inj heq), fun heq => Piece.noConfusion heq⟩ h
          rintro d hd ⟨⟩
          exact hletter hd
      | some text =>
          obtain ⟨hscan, hlonger, hnone⟩ := of_replacement? hreplaced
          have htext : (pair c).expansion inClass = text.toList := by
            rw [expansion, hreplaced]
          rw [htext]
          exact ⟨⟨false, hscan⟩, hlonger, hnone⟩
  | single c =>
      by_cases hopen : inClass = true ∧ c = '['
      · have htext : (single c).expansion inClass = ['\\', '['] := if_pos hopen
        rw [htext]
        exact ⟨⟨false, rfl⟩, Nat.lt_succ_self 1, by simp [replacedLetters, pieces]⟩
      · refine absurd ⟨fun d hd heq => Piece.noConfusion heq, fun heq => Piece.noConfusion heq,
          fun heq => ?_⟩ h
        exact Bool.eq_false_iff.mpr fun hclass => hopen ⟨hclass, single.inj heq⟩

end Piece

/-! ## Joined texts -/

section Joined

variable {start after : Bool} {front : List Char}

/-- **A text that does not end in a lone backslash is expanded by itself**, whatever follows it. -/
theorem expandFrom_append (h : scanFrom start front = some after) (back : List Char) :
    expandFrom start (front ++ back) = expandFrom start front ++ expandFrom after back := by
  induction front using piece_induction generalizing start with
  | nil =>
      obtain rfl : start = after := Option.some.inj h
      rfl
  | dangling => cases h
  | piece x rest hx ih =>
      rw [scanFrom_step hx] at h
      rw [List.append_assoc, expandFrom_step hx, expandFrom_step hx, ih h, List.append_assoc]

theorem pieces_append (h : scanFrom start front = some after) (back : List Char) :
    pieces (front ++ back) = pieces front ++ pieces back := by
  induction front using piece_induction generalizing start with
  | nil => rfl
  | dangling => cases h
  | piece x rest hx ih =>
      rw [scanFrom_step hx] at h
      rw [List.append_assoc, pieces_step hx, pieces_step hx, ih h, List.cons_append]

end Joined

/-- A piece of a text stands behind a text of whole pieces. -/
theorem mem_pieces_iff {x : Piece} (hx : x ≠ .single '\\') (start : Bool) {cs : List Char} :
    x ∈ pieces cs ↔
      ∃ front back inClass, cs = front ++ (x.text ++ back) ∧ scanFrom start front = some inClass := by
  constructor
  · intro h
    induction cs using piece_induction generalizing start with
    | nil => cases h
    | dangling => exact absurd (List.mem_singleton.mp h) hx
    | piece y rest hy ih =>
        rw [pieces_step hy] at h
        rcases List.mem_cons.mp h with rfl | hrest
        · exact ⟨[], rest, start, rfl, by rw [scanFrom]⟩
        · obtain ⟨front, back, inClass, rfl, hscan⟩ := ih (y.next start) hrest
          refine ⟨y.text ++ front, back, inClass, ?_, ?_⟩
          · rw [List.append_assoc]
          · rw [scanFrom_step hy, hscan]
  · rintro ⟨front, back, inClass, rfl, hscan⟩
    rw [pieces_append hscan, pieces_step hx]
    exact List.mem_append_right _ List.mem_cons_self

/-! ## Shape -/

section Shape

variable {start : Bool} {cs : List Char}

/-- What stands for a piece is read piece by piece, whatever follows it. -/
theorem pieces_expansion_append {x : Piece} (hx : x ≠ .single '\\') (inClass : Bool) (back : List Char) :
    pieces (x.expansion inClass ++ back) = pieces (x.expansion inClass) ++ pieces back := by
  by_cases hkept : x.Kept inClass
  · have hone : pieces x.text = [x] := by
      have hstep := pieces_step hx []
      rwa [List.append_nil] at hstep
    rw [Piece.expansion_of_kept hkept, pieces_step hx, hone]
    rfl
  · obtain ⟨⟨after, hscan⟩, -, -⟩ := Piece.of_not_kept hkept
    exact pieces_append hscan back

theorem mem_pieces_expansion {x : Piece} (hx : x ≠ .single '\\') {inClass : Bool} {d : Char}
    (hd : d ∈ 'B' :: replacedLetters) (h : .pair d ∈ pieces (x.expansion inClass)) :
    x = .pair d ∧ x.Kept inClass := by
  by_cases hkept : x.Kept inClass
  · rw [Piece.expansion_of_kept hkept, ← List.append_nil x.text, pieces_step hx] at h
    exact ⟨(List.mem_singleton.mp h).symm, hkept⟩
  · obtain ⟨-, -, hnone⟩ := Piece.of_not_kept hkept
    exact absurd h (hnone d hd)

/-- **No escape that means something else to the matcher is left.** -/
theorem pair_not_mem_pieces {c : Char} (hc : c ∈ replacedLetters) :
    .pair c ∉ pieces (expandFrom start cs) := by
  induction cs using piece_induction generalizing start with
  | nil => exact List.not_mem_nil
  | dangling => exact fun h => absurd (List.mem_singleton.mp h) (by simp)
  | piece x rest hx ih =>
      rw [expandFrom_step hx, pieces_expansion_append hx, List.mem_append]
      rintro (hhere | hrest)
      · obtain ⟨rfl, hkept⟩ := mem_pieces_expansion hx (List.mem_cons_of_mem _ hc) hhere
        exact hkept.letter c hc rfl
      · exact ih hrest

/-- An entry of two joined lists is in the one or in the other. -/
theorem exists_of_append_eq {α : Type} {l t before after : List α} {x : α}
    (h : l ++ t = before ++ x :: after) :
    (∃ before', before = l ++ before' ∧ t = before' ++ x :: after) ∨
      ∃ after', l = before ++ x :: after' ∧ after = after' ++ t := by
  rcases List.append_eq_append_iff.mp h with ⟨before', hbefore, ht⟩ | ⟨others, hl, hothers⟩
  · exact .inl ⟨before', hbefore, ht⟩
  · cases others with
    | nil => exact .inl ⟨[], by simpa using hl.symm, by simpa using hothers.symm⟩
    | cons y after' =>
        obtain ⟨rfl, rfl⟩ := List.cons.inj hothers
        exact .inr ⟨after', hl, rfl⟩

/-- **What is left of the escape that is no word boundary** is one that stood in a class, with the same
expansions around it. -/
theorem exists_of_notBoundary {before after : List Piece}
    (h : pieces (expandFrom start cs) = before ++ .pair 'B' :: after) :
    ∃ front back, cs = front ++ '\\' :: 'B' :: back ∧ scanFrom start front = some true ∧
      before = pieces (expandFrom start front) ∧ after = pieces (expandFrom true back) := by
  induction cs using piece_induction generalizing start before with
  | nil => exact absurd h (by simp [expandFrom, pieces])
  | dangling =>
      have hmem : .pair 'B' ∈ pieces (expandFrom start ['\\']) := by
        rw [h]
        exact List.mem_append_right _ List.mem_cons_self
      exact absurd (List.mem_singleton.mp hmem) (by simp)
  | piece x rest hx ih =>
      rw [expandFrom_step hx, pieces_expansion_append hx] at h
      rcases exists_of_append_eq h with ⟨before', rfl, hrest⟩ | ⟨after', hhere, rfl⟩
      · obtain ⟨front, back, rfl, hscan, rfl, rfl⟩ := ih hrest
        refine ⟨x.text ++ front, back, ?_, ?_, ?_, rfl⟩
        · rw [List.append_assoc]
        · rw [scanFrom_step hx, hscan]
        · rw [expandFrom_step hx, pieces_expansion_append hx]
      · -- the piece itself is the escape, and it stays in a class alone
        have hmem : .pair 'B' ∈ pieces (x.expansion start) := by
          rw [hhere]
          exact List.mem_append_right _ List.mem_cons_self
        obtain ⟨rfl, hkept⟩ := mem_pieces_expansion hx List.mem_cons_self hmem
        obtain rfl := hkept.boundary rfl
        have hone : [Piece.pair 'B'] = before ++ .pair 'B' :: after' := hhere
        obtain ⟨rfl, rfl⟩ : before = [] ∧ after' = [] := by
          cases before with
          | nil => exact ⟨rfl, (List.cons.inj hone).2.symm⟩
          | cons y ys => exact absurd (List.cons.inj hone).2.symm (by simp)
        exact ⟨[], rest, rfl, rfl, rfl, rfl⟩

/-- Expanded texts are not shorter. -/
theorem length_le_expandFrom (start : Bool) (cs : List Char) :
    cs.length ≤ (expandFrom start cs).length := by
  induction cs using piece_induction generalizing start with
  | nil => exact Nat.zero_le _
  | dangling => exact Nat.le_refl 1
  | piece x rest hx ih =>
      have hhere : x.text.length ≤ (x.expansion start).length := by
        by_cases hkept : x.Kept start
        · exact Nat.le_of_eq (congrArg List.length (Piece.expansion_of_kept hkept).symm)
        · exact Nat.le_of_lt (Piece.of_not_kept hkept).2.1
      have hrest := ih (x.next start)
      rw [expandFrom_step hx, List.length_append, List.length_append]
      omega

/-- **Expansion changes nothing exactly where every piece is left as it stands.** -/
theorem expandFrom_eq_self_iff :
    expandFrom start cs = cs ↔
      ∀ front (x : Piece) back inClass, x ≠ .single '\\' → cs = front ++ (x.text ++ back) →
        scanFrom start front = some inClass → x.Kept inClass := by
  constructor
  · intro hsame front x back inClass hx hcs hscan
    refine Classical.byContradiction fun hkept => ?_
    have hlonger := (Piece.of_not_kept hkept).2.1
    have hfront := length_le_expandFrom start front
    have hback := length_le_expandFrom (x.next inClass) back
    have hlength := congrArg List.length hsame
    rw [hcs, expandFrom_append hscan, expandFrom_step hx] at hlength
    simp only [List.length_append] at hlength
    omega
  · intro h
    induction cs using piece_induction generalizing start with
    | nil => rfl
    | dangling => rfl
    | piece x rest hx ih =>
        have hkept : x.Kept start := h [] x rest start hx rfl rfl
        have hrest : expandFrom (x.next start) rest = rest := by
          refine ih fun front y back inClass hy hcs hscan => ?_
          refine h (x.text ++ front) y back inClass hy ?_ ?_
          · rw [hcs, List.append_assoc]
          · rw [scanFrom_step hx, hscan]
        rw [expandFrom_step hx, Piece.expansion_of_kept hkept, hrest]

theorem expand_toList (p : String) : (expand p).toList = expandFrom false p.toList := String.toList_ofList

/-- Where a pattern has none of the escapes that are replaced, and no bracket that opens inside a class,
each of its pieces is left as it stands; and the other way round. -/
theorem forall_kept_iff :
    (∀ front (x : Piece) back inClass, x ≠ .single '\\' → cs = front ++ (x.text ++ back) →
        scanFrom start front = some inClass → x.Kept inClass) ↔
      (∀ c ∈ replacedLetters, .pair c ∉ pieces cs) ∧
      (∀ front back, cs = front ++ '\\' :: 'B' :: back → scanFrom start front ≠ some false) ∧
      ∀ front back, cs = front ++ '[' :: back → scanFrom start front ≠ some true := by
  constructor
  · intro h
    refine ⟨fun c hc hmem => ?_, fun front back hcs hscan => ?_, fun front back hcs hscan => ?_⟩
    · obtain ⟨front, back, inClass, hcs, hscan⟩ := (mem_pieces_iff (by simp) start).mp hmem
      exact (h front _ back inClass (by simp) hcs hscan).letter c hc rfl
    · have hkept := h front (.pair 'B') back false (by simp) hcs hscan
      exact absurd (hkept.boundary rfl) Bool.false_ne_true
    · have hkept := h front (.single '[') back true (by simp) hcs hscan
      exact absurd (hkept.opening rfl).symm Bool.false_ne_true
  · rintro ⟨hletter, hboundary, hopening⟩ front x back inClass hx hcs hscan
    refine ⟨?_, ?_, ?_⟩
    · rintro c hc rfl
      exact hletter c hc ((mem_pieces_iff hx start).mpr ⟨front, back, inClass, hcs, hscan⟩)
    · rintro rfl
      cases inClass with
      | true => rfl
      | false => exact absurd hscan (hboundary front back hcs)
    · rintro rfl
      cases inClass with
      | true => exact absurd hscan (hopening front back hcs)
      | false => rfl

end Shape

/-- **The shape of an expanded pattern.** Read piece by piece, it has none of the escapes that mean
something else to the matcher; the escape that is no word boundary is left where the pattern has it
inside a class, and nowhere else. A pattern is left as it is exactly if it has none of these escapes,
the last one in classes aside, and no bracket that opens inside a class. And a pattern that ends outside
of classes, and not in a lone backslash, is expanded by itself, whatever follows it. -/
theorem expand_shape (p : String) :
    (∀ c ∈ replacedLetters, .pair c ∉ pieces (expand p).toList) ∧
    (∀ before after, pieces (expand p).toList = before ++ .pair 'B' :: after →
      ∃ front back, p.toList = front ++ '\\' :: 'B' :: back ∧ scanFrom false front = some true ∧
        before = pieces (expandFrom false front) ∧ after = pieces (expandFrom true back)) ∧
    (expand p = p ↔
      (∀ c ∈ replacedLetters, .pair c ∉ pieces p.toList) ∧
      (∀ front back, p.toList = front ++ '\\' :: 'B' :: back → scanFrom false front ≠ some false) ∧
      ∀ front back, p.toList = front ++ '[' :: back → scanFrom false front ≠ some true) ∧
    ∀ q, scanFrom false p.toList = some false → expand (p ++ q) = expand p ++ expand q := by
  refine ⟨fun c hc => ?_, fun before after h => ?_, ?_, fun q hscan => ?_⟩
  · rw [expand_toList]
    exact pair_not_mem_pieces hc
  · rw [expand_toList] at h
    exact exists_of_notBoundary h
  · rw [← String.toList_inj, expand_toList, expandFrom_eq_self_iff]
    exact forall_kept_iff
  · rw [← String.toList_inj, String.toList_append, expand_toList, expand_toList, expand_toList,
      String.toList_append, expandFrom_append hscan]

theorem expand_shape_crowded :
    scanFrom false "[\\B[\\w]\\d".toList = some false ∧
      expand ("[\\B[\\w]\\d" ++ "\\B\\") = expand "[\\B[\\w]\\d" ++ expand "\\B\\" ∧
      pieces (expand "[\\B[\\w]\\d").toList =
        [.single '['] ++ .pair 'B' :: pieces "\\[A-Za-z0-9_][0-9]".toList ∧
      ∃ front back, "[\\B[\\w]\\d".toList = front ++ '\\' :: 'B' :: back ∧
        scanFrom false front = some true ∧ [.single '['] = pieces (expandFrom false front) ∧
        pieces "\\[A-Za-z0-9_][0-9]".toList = pieces (expandFrom true back) := by
  have hscan : scanFrom false "[\\B[\\w]\\d".toList = some false := by decide
  have hpieces : pieces (expand "[\\B[\\w]\\d").toList =
      [.single '['] ++ .pair 'B' :: pieces "\\[A-Za-z0-9_][0-9]".toList := by decide
  obtain ⟨-, hleft, -, hjoined⟩ := expand_shape "[\\B[\\w]\\d"
  exact ⟨hscan, hjoined "\\B\\" hscan, hpieces, hleft _ _ hpieces⟩

/-- A lone backslash at the end stays too. -/
example : expand "^\\.[^\\]\\B]\\" = "^\\.[^\\]\\B]\\" := by decide

end JsonSchema.Pattern.Dialect
