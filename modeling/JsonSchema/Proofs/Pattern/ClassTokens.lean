import JsonSchema.Pattern.Notation
import JsonSchema.Proofs.Pattern.ClassNotation

/-!
# `JsonSchema.Proofs.Pattern.ClassTokens` — the tokens of an expanded class

The matcher cuts a class into tokens before it reads it, and finds its end by counting brackets. The text
that stands for an atom is cut into the same tokens wherever it stands in a class, and leaves as many
brackets open as it found. So a class is cut atom by atom, up to its own closing bracket.

## Contents
- **Cutting.** `Cuts`, which composes; ordinary characters and brackets.
- **Atoms.** `ClassAtom.tokens`, `cuts_atom`, `cuts_atoms`.
- **Classes.** Main statement `wholeClass?_written`.
-/

namespace JsonSchema.Pattern

open Notation Pattern.Bracket

/-! ## Cutting -/

/-- **A text is cut into tokens** wherever it stands inside a class, with as many open brackets before it and
after it as given. Each token takes one step. -/
def Cuts (before after : Nat) (cs : List Char) (tokens : List Bracket.Token) : Prop :=
  ∀ flags fuel rest, classTokens flags (fuel + tokens.length) before (cs ++ rest) =
    (classTokens flags fuel after rest).map fun p => (tokens ++ p.1, p.2)

/-- Whether a character neither begins an escape nor is a bracket. -/
def isOrdinary (c : Char) : Bool := c != '\\' && c != '[' && c != ']'

namespace Cuts

variable {d d' d'' : Nat} {cs cs' : List Char} {tokens tokens' : List Bracket.Token}

theorem nil (d : Nat) : Cuts d d [] [] := by
  intro flags fuel rest
  exact (congrFun Option.map_id (classTokens flags fuel d rest)).symm

theorem append (h : Cuts d d' cs tokens) (h' : Cuts d' d'' cs' tokens') :
    Cuts d d'' (cs ++ cs') (tokens ++ tokens') := by
  intro flags fuel rest
  have hfuel : fuel + (tokens ++ tokens').length = fuel + tokens'.length + tokens.length := by
    rw [List.length_append]
    omega
  rw [hfuel, List.append_assoc, h, h', Option.map_map]
  refine congrArg (Option.map · _) (funext fun p => ?_)
  rw [Function.comp_apply, List.append_assoc]

theorem flatMap {α : Type} {f : α → List Char} {g : α → List Bracket.Token}
    (h : ∀ a, Cuts d d (f a) (g a)) (l : List α) : Cuts d d (l.flatMap f) (l.flatMap g) := by
  induction l with
  | nil => exact nil d
  | cons a rest ih => exact (h a).append ih

/-- A character without a meaning of its own is a token as it stands. -/
theorem raw {c : Char} (hbackslash : c ≠ '\\') (hopen : c ≠ '[') (hclose : c ≠ ']') :
    Cuts d d [c] [.raw c] := by
  intro flags fuel rest
  show classTokens flags (fuel + 1) d (c :: rest) = _
  rw [classTokens]
  · rfl
  all_goals
    intros
    contradiction

theorem opens : Cuts d (d + 1) ['['] [.raw '['] := by
  intro flags fuel rest
  show classTokens flags (fuel + 1) d ('[' :: rest) = _
  rw [classTokens]
  rfl

theorem closes : Cuts (d + 1) d [']'] [.raw ']'] := by
  intro flags fuel rest
  show classTokens flags (fuel + 1) (d + 1) (']' :: rest) = _
  rw [classTokens]
  rfl

theorem raws (h : cs.all isOrdinary = true) : Cuts d d cs (cs.map .raw) := by
  induction cs with
  | nil => exact nil d
  | cons c rest ih =>
      simp only [List.all_cons, isOrdinary, Bool.and_eq_true, bne_iff_ne] at h
      obtain ⟨⟨⟨hbackslash, hopen⟩, hclose⟩, hrest⟩ := h
      exact (raw hbackslash hopen hclose).append (ih hrest)

/-- An escape that makes a character plain. -/
theorem escape (cs : List Char) {c e : Char} (hdigit : e.isDigit = false)
    (hescape : ∀ flags rest, charEscape? flags true e (cs ++ rest) = some (.plain c, rest)) :
    Cuts d d ('\\' :: e :: cs) [.plain c] := by
  intro flags fuel rest
  show classTokens flags (fuel + 1) d ('\\' :: e :: (cs ++ rest)) = _
  rw [classTokens]
  simp only [hdigit, hescape]
  rfl

end Cuts

/-! ## Atoms -/

/-- The tokens of an atom. -/
def ClassAtom.tokens : ClassAtom → List Bracket.Token
  | .plain c _ => if c = '[' then [.plain '['] else [.raw c]
  | .escaped c _ => [.plain c]
  | .backspace => [.plain '\x08']
  | .shorthand s => (ClassAtom.shorthand s).expansion.map .raw

section Punctuation

variable {c : Char} (h : c.isAlphanum = false)
include h

theorem ne_of_isAlphanum {d : Char} (hd : d.isAlphanum = true) : c ≠ d := by
  rintro rfl
  exact absurd hd (by rw [h]; exact Bool.false_ne_true)

theorem isDigit_of_not_isAlphanum : c.isDigit = false := by
  rw [Char.isAlphanum, Bool.or_eq_false_iff] at h
  exact h.2

theorem isAlpha_of_not_isAlphanum : c.isAlpha = false := by
  rw [Char.isAlphanum, Bool.or_eq_false_iff] at h
  exact h.1

theorem shorthand?_eq_none : shorthand? c = none := by
  unfold shorthand?
  split
  all_goals first
    | rfl
    | contradiction

theorem controlEscape?_eq_none : controlEscape? c = none := by
  unfold controlEscape?
  split
  all_goals first
    | rfl
    | contradiction

/-- A backslash makes plain what is neither a letter nor a digit. -/
theorem charEscape?_punctuation (flags : Flags) (rest : List Char) :
    charEscape? flags true c rest = some (.plain c, rest) := by
  have hne : ∀ d : Char, d.isAlphanum = true → c ≠ d := fun d hd => ne_of_isAlphanum h hd
  have hhex : ¬(c = 'x' ∨ c = 'u' ∨ c = 'U') := by
    rintro (hx | hu | hU)
    · exact hne 'x' rfl hx
    · exact hne 'u' rfl hu
    · exact hne 'U' rfl hU
  have hproperty : ¬((c = 'p' ∨ c = 'P') ∧ rest ≠ []) := by
    rintro ⟨hp | hP, -⟩
    · exact hne 'p' rfl hp
    · exact hne 'P' rfl hP
  have hbackspace : c ≠ 'b' := hne 'b' rfl
  have halpha : ¬c.isAlpha = true := by
    rw [isAlpha_of_not_isAlphanum h]
    exact Bool.false_ne_true
  rw [charEscape?, shorthand?_eq_none h]
  show ite _ _ _ = _
  rw [if_neg hhex, if_neg hproperty, if_neg fun hb => hbackspace hb.2, controlEscape?_eq_none h]
  exact if_neg fun hletter => halpha hletter.1

end Punctuation

theorem cuts_atom (a : ClassAtom) : Cuts 0 0 a.expansion a.tokens := by
  cases a with
  | plain c ordinary =>
      obtain ⟨hbackslash, hclose⟩ := ordinary
      by_cases hopen : c = '['
      · subst hopen
        exact .escape [] rfl (charEscape?_punctuation rfl)
      · simp only [ClassAtom.expansion, ClassAtom.tokens, if_neg hopen]
        exact .raw hbackslash hopen hclose
  | escaped c punctuation =>
      simp only [isPunctuation, Bool.and_eq_true, Bool.not_eq_true'] at punctuation
      have hother := punctuation.2
      exact .escape [] (isDigit_of_not_isAlphanum hother) (charEscape?_punctuation hother)
  | backspace => exact .escape ['0', '8'] rfl fun flags rest => rfl
  | shorthand s =>
      -- a complement is an ASCII class of the matcher, whose brackets are counted
      have hnamed : ∀ name : List Char, name.all isOrdinary = true →
          Cuts 0 0 ('[' :: (name ++ [']'])) (('[' :: (name ++ [']'])).map .raw) := by
        intro name hname
        rw [List.map_cons, List.map_append]
        exact Cuts.append .opens (.append (.raws hname) .closes)
      cases s with
      | digit => exact .raws rfl
      | notDigit => exact hnamed [':', '^', 'd', 'i', 'g', 'i', 't', ':'] rfl
      | word => exact .raws rfl
      | notWord => exact hnamed [':', '^', 'w', 'o', 'r', 'd', ':'] rfl

theorem cuts_atoms (atoms : List ClassAtom) :
    Cuts 0 0 (atoms.flatMap ClassAtom.expansion) (atoms.flatMap ClassAtom.tokens) :=
  .flatMap cuts_atom atoms

/-- Cutting takes no more steps than there are characters. -/
theorem length_tokens_le (atoms : List ClassAtom) :
    (atoms.flatMap ClassAtom.tokens).length ≤ (atoms.flatMap ClassAtom.expansion).length := by
  have hatom : ∀ a : ClassAtom, a.tokens.length ≤ a.expansion.length := by
    intro a
    cases a with
    | plain c ordinary =>
        simp only [ClassAtom.tokens, ClassAtom.expansion]
        split <;> simp
    | escaped c punctuation => simp [ClassAtom.tokens, ClassAtom.expansion]
    | backspace => simp [ClassAtom.tokens, ClassAtom.expansion]
    | shorthand s => exact Nat.le_of_eq (List.length_map _)
  induction atoms with
  | nil => exact Nat.le_refl 0
  | cons a rest ih =>
      have ha := hatom a
      rw [List.flatMap_cons, List.flatMap_cons, List.length_append, List.length_append]
      omega

/-! ## Classes -/

/-- The tokens of a class behind its first bracket and its caret. -/
def bodyTokens (atoms : List ClassAtom) : List Bracket.Token := atoms.flatMap ClassAtom.tokens ++ [.raw ']']

/-- The closing bracket of a class ends it. -/
theorem classTokens_atoms (flags : Flags) (atoms : List ClassAtom) :
    let cs := atoms.flatMap ClassAtom.expansion ++ [']']
    classTokens flags (cs.length + 1) 0 cs = some (bodyTokens atoms, []) := by
  intro cs
  have hle := length_tokens_le atoms
  obtain ⟨fuel, hfuel⟩ : ∃ fuel, cs.length + 1 = fuel + 1 + (atoms.flatMap ClassAtom.tokens).length := by
    refine ⟨cs.length - (atoms.flatMap ClassAtom.tokens).length, ?_⟩
    simp only [cs, List.length_append, List.length_singleton]
    omega
  rw [hfuel, cuts_atoms atoms flags (fuel + 1) [']'], classTokens]
  rfl

/-- What an atom is expanded to begins neither with a closing bracket nor, unless the atom is one, with a
caret. -/
theorem exists_expansion (a : ClassAtom) :
    ∃ c cs, a.expansion = c :: cs ∧ c ≠ ']' ∧ (a.isPlain '^' = false → c ≠ '^') := by
  cases a with
  | plain c ordinary =>
      by_cases hopen : c = '['
      · simp only [ClassAtom.expansion, if_pos hopen]
        exact ⟨_, _, rfl, by decide, fun _ => by decide⟩
      · simp only [ClassAtom.expansion, if_neg hopen]
        exact ⟨c, [], rfl, ordinary.2, fun hcaret => beq_eq_false_iff_ne.mp hcaret⟩
  | escaped c punctuation => exact ⟨_, _, rfl, by decide, fun _ => by decide⟩
  | backspace => exact ⟨_, _, rfl, by decide, fun _ => by decide⟩
  | shorthand s =>
      cases s with
      | digit | notDigit | word | notWord => exact ⟨_, _, rfl, by decide, fun _ => by decide⟩

/-- **A class that is not empty is cut up to its own closing bracket.** -/
theorem wholeClass?_written (flags : Flags) (c : WrittenClass) (hne : c.atoms ≠ []) :
    wholeClass? flags
        ((if c.complemented then ['^'] else []) ++ (c.atoms.flatMap ClassAtom.expansion ++ [']'])) =
      some ((if c.complemented then [.raw '^'] else []) ++ bodyTokens c.atoms, []) := by
  obtain ⟨complemented, atoms, caret⟩ := c
  obtain ⟨a, more, rfl⟩ := List.exists_cons_of_ne_nil hne
  obtain ⟨d, ds, hexpansion, hclose, hcaret⟩ := exists_expansion a
  have hcut := classTokens_atoms flags (a :: more)
  have hhead : (a :: more).flatMap ClassAtom.expansion ++ [']'] =
      d :: (ds ++ (more.flatMap ClassAtom.expansion ++ [']'])) := by
    rw [List.flatMap_cons, hexpansion, List.cons_append, List.cons_append, List.append_assoc]
  simp only [hhead] at hcut ⊢
  generalize ds ++ (more.flatMap ClassAtom.expansion ++ [']']) = rest at hcut ⊢
  cases complemented with
  | true =>
      -- the first member is no bracket that closes
      have hstart : wholeClass? flags ('^' :: d :: rest) =
          (classTokens flags ((d :: rest).length + 1) 0 (d :: rest)).map fun p =>
            ([.raw '^'] ++ p.1, p.2) := by
        unfold wholeClass?
        split
        rename_i heq
        split at heq
        · rename_i hcs
          injection hcs with _ hcs
          injection hcs with hd
          exact absurd hd hclose
        · rename_i hcs
          injection hcs with _ hcs
          cases heq
          rw [hcs]
        · rename_i hcs
          injection hcs with hd
          exact absurd hd (by decide)
        · rename_i hno _
          exact absurd rfl (hno (d :: rest))
      exact hstart.trans (by rw [hcut]; rfl)
  | false =>
      have hplain : d ≠ '^' := hcaret (caret rfl a rfl)
      have hstart : wholeClass? flags (d :: rest) =
          (classTokens flags ((d :: rest).length + 1) 0 (d :: rest)).map fun p => ([] ++ p.1, p.2) := by
        unfold wholeClass?
        split
        rename_i heq
        split at heq
        · rename_i hcs
          injection hcs with hd
          exact absurd hd hplain
        · rename_i hcs
          injection hcs with hd
          exact absurd hd hplain
        · rename_i hcs
          injection hcs with hd
          exact absurd hd hclose
        · cases heq
          rfl
      exact hstart.trans (by rw [hcut]; rfl)

end JsonSchema.Pattern
