import JsonSchema.Pattern.Dialect

/-!
# `JsonSchema.Proofs.Pattern.ClassNotation` — the character classes that schemas write

A schema writes a class as an opening bracket, a caret if the class is complemented, any number of *atoms*,
and a closing bracket. What the class holds is said of the *items* that the atoms make: an atom, a hyphen and
an atom are a range, and every other atom stands for itself, a hyphen included. A class may be empty, brackets
that open mean nothing in it, and it has no operators.

Everything here is the notation of schemas. The notation of the matcher, which nests classes and has
operators, plays no part in what a class means.

## Contents
- **Atoms.** `Shorthand`, `ClassAtom` with its `text`, `char?` and `Holds`.
- **Items.** `ClassItem`, `ClassItem.ofAtoms`, `Ordered`, `Holds`.
- **Classes.** `WrittenClass`, its `text`, `items` and `Holds`.
- **Operators.** `operatorFree`: no two neighbours that the matcher's notation takes for an operator.
- **Expansion.** `ClassAtom.expansion`, and `expand_text`: how a class is rewritten for the matcher.
-/

namespace JsonSchema.Pattern

/-! ## Atoms -/

/-- The shorthands for sets of ASCII characters. -/
inductive Shorthand where
  | digit | notDigit | word | notWord
deriving DecidableEq

namespace Shorthand

/-- The letter of its escape. -/
def letter : Shorthand → Char
  | .digit => 'd'
  | .notDigit => 'D'
  | .word => 'w'
  | .notWord => 'W'

/-- The characters that it stands for. -/
def Holds (c : Char) : Shorthand → Prop
  | .digit => c.isDigit
  | .notDigit => ¬c.isDigit
  | .word => c.isAlphanum ∨ c = '_'
  | .notWord => ¬(c.isAlphanum ∨ c = '_')

instance (c : Char) : DecidablePred (Holds c)
  | .digit => inferInstanceAs (Decidable (c.isDigit = true))
  | .notDigit => inferInstanceAs (Decidable ¬c.isDigit = true)
  | .word => inferInstanceAs (Decidable (c.isAlphanum = true ∨ c = '_'))
  | .notWord => inferInstanceAs (Decidable ¬(c.isAlphanum = true ∨ c = '_'))

end Shorthand

/-- A printable ASCII character that is neither a blank nor a letter nor a digit. -/
def isPunctuation (c : Char) : Bool := '!' ≤ c && c ≤ '~' && !c.isAlphanum

/-- The smallest parts of a class. -/
inductive ClassAtom where
  /-- a character as it stands -/
  | plain (c : Char) (ordinary : c ≠ '\\' ∧ c ≠ ']')
  /-- punctuation behind a backslash -/
  | escaped (c : Char) (punctuation : isPunctuation c = true)
  | backspace
  | shorthand (s : Shorthand)
deriving DecidableEq

namespace ClassAtom

/-- How an atom is written. -/
def text : ClassAtom → List Char
  | .plain c _ => [c]
  | .escaped c _ => ['\\', c]
  | .backspace => ['\\', 'b']
  | .shorthand s => ['\\', s.letter]

/-- The character that an atom is; a shorthand is none. -/
def char? : ClassAtom → Option Char
  | .plain c _ | .escaped c _ => some c
  | .backspace => some '\x08'
  | .shorthand _ => none

/-- What an atom stands for by itself. -/
def Holds (c : Char) : ClassAtom → Prop
  | .shorthand s => s.Holds c
  | a => a.char? = some c

instance (c : Char) : DecidablePred (Holds c)
  | .shorthand s => inferInstanceAs (Decidable (s.Holds c))
  | .plain d _ | .escaped d _ => inferInstanceAs (Decidable (some d = some c))
  | .backspace => inferInstanceAs (Decidable (some '\x08' = some c))

/-- Whether an atom is a character as it stands. -/
def isPlain (c : Char) : ClassAtom → Bool
  | .plain d _ => d == c
  | _ => false

theorem exists_of_isPlain {a : ClassAtom} {c : Char} (h : a.isPlain c = true) :
    ∃ ordinary, a = .plain c ordinary := by
  cases a with
  | plain d ordinary =>
      obtain rfl : d = c := beq_iff_eq.mp h
      exact ⟨ordinary, rfl⟩
  | _ => exact absurd h Bool.false_ne_true

end ClassAtom

/-! ## Items -/

/-- What atoms make: one by itself, or the two ends of a range. -/
inductive ClassItem where
  | one (a : ClassAtom)
  | range (low high : ClassAtom)

namespace ClassItem

/-- The items of atoms in a row. A hyphen between two atoms makes a range of them; what follows the range
starts afresh. -/
def ofAtoms : List ClassAtom → List ClassItem
  | [] => []
  | [a] => [.one a]
  | [a, b] => .one a :: ofAtoms [b]
  | a :: h :: b :: rest =>
    if h.isPlain '-' then .range a b :: ofAtoms rest else .one a :: ofAtoms (h :: b :: rest)

/-- The first atom of an item. -/
def first : ClassItem → ClassAtom
  | .one a => a
  | .range low _ => low

/-- A range goes from a character to one that is not below it. -/
def Ordered : ClassItem → Prop
  | .one _ => True
  | .range a b => ∃ low ∈ a.char?, ∃ high ∈ b.char?, low ≤ high

/-- What an item stands for. -/
def Holds (c : Char) : ClassItem → Prop
  | .one a => a.Holds c
  | .range a b => ∃ low ∈ a.char?, ∃ high ∈ b.char?, low ≤ c ∧ c ≤ high

instance : DecidablePred Ordered
  | .one _ => isTrue trivial
  | .range a b =>
    decidable_of_iff (a.char?.any (fun low => b.char?.any fun high => low ≤ high) = true)
      (by simp only [Ordered, Option.any_eq_true, decide_eq_true_eq, Option.mem_def])

instance (c : Char) : DecidablePred (Holds c)
  | .one a => inferInstanceAs (Decidable (a.Holds c))
  | .range a b =>
    decidable_of_iff (a.char?.any (fun low => b.char?.any fun high => low ≤ c && c ≤ high) = true)
      (by simp only [Holds, Option.any_eq_true, Bool.and_eq_true, decide_eq_true_eq, Option.mem_def])

/-- Whether an item consists of hyphens. -/
def isHyphens : ClassItem → Bool
  | .one a => a.isPlain '-'
  | .range a b => a.isPlain '-' && b.isPlain '-'

end ClassItem

/-! ## Classes -/

/-- A character class as schemas write it. A caret right behind the bracket complements the class. -/
structure WrittenClass where
  complemented : Bool
  atoms : List ClassAtom
  caret : complemented = false → ∀ a ∈ atoms.head?, a.isPlain '^' = false

namespace WrittenClass

/-- How a class is written. -/
def text (c : WrittenClass) : List Char :=
  '[' :: ((if c.complemented then ['^'] else []) ++ (c.atoms.flatMap ClassAtom.text ++ [']']))

/-- The items of a class. -/
def items (c : WrittenClass) : List ClassItem := ClassItem.ofAtoms c.atoms

/-- What a class holds: what its items stand for, or all else. -/
def Holds (c : WrittenClass) (d : Char) : Prop :=
  if c.complemented then ¬∃ i ∈ c.items, i.Holds d else ∃ i ∈ c.items, i.Holds d

instance (c : WrittenClass) : DecidablePred c.Holds := fun d =>
  inferInstanceAs
    (Decidable (if c.complemented then ¬∃ i ∈ c.items, i.Holds d else ∃ i ∈ c.items, i.Holds d))

end WrittenClass

/-! ## Operators -/

/-- The characters that are an operator of the matcher's notation where they stand twice. -/
def operators : List Char := ['&', '-', '~']

/-- **No operator is met** when items are read one after the other: no range has a hyphen at an end, and no
item that is a lone `&`, `-` or `~` is followed by the same character. -/
def operatorFree : List ClassItem → Bool
  | [] => true
  | .range a b :: rest => !a.isPlain '-' && !b.isPlain '-' && operatorFree rest
  | .one a :: rest =>
    operators.all (fun c => !(a.isPlain c && rest.head?.any fun i => i.first.isPlain c)) &&
      operatorFree rest

/-- A class whose items are no operators of the matcher's notation, hyphens at its start aside. -/
def WrittenClass.isOperatorFree (c : WrittenClass) : Bool :=
  operatorFree (c.items.dropWhile ClassItem.isHyphens)

/-! ## Expansion -/

namespace ClassAtom

/-- What stands for an atom in the matcher's notation. -/
def expansion : ClassAtom → List Char
  | .plain c _ => if c = '[' then ['\\', '['] else [c]
  | .escaped c _ => ['\\', c]
  | .backspace => ['\\', 'x', '0', '8']
  | .shorthand .digit => ['0', '-', '9']
  | .shorthand .notDigit => ['[', ':', '^', 'd', 'i', 'g', 'i', 't', ':', ']']
  | .shorthand .word => ['A', '-', 'Z', 'a', '-', 'z', '0', '-', '9', '_']
  | .shorthand .notWord => ['[', ':', '^', 'w', 'o', 'r', 'd', ':', ']']

end ClassAtom

section Expansion

open Dialect

theorem replacement?_eq_none {c : Char} (h : c.isAlphanum = false) : replacement? true c = none := by
  unfold replacement?
  split
  all_goals first
    | rfl
    | contradiction

/-- A character without a meaning of its own in a class stays. -/
theorem expandFrom_ordinary {c : Char} (hbackslash : c ≠ '\\') (hopen : c ≠ '[') (hclose : c ≠ ']')
    (rest : List Char) : expandFrom true (c :: rest) = c :: expandFrom true rest := by
  rw [expandFrom]
  all_goals intros
  all_goals contradiction

/-- An atom is expanded by itself. -/
theorem expandFrom_atom (a : ClassAtom) (rest : List Char) :
    expandFrom true (a.text ++ rest) = a.expansion ++ expandFrom true rest := by
  cases a with
  | plain c ordinary =>
      obtain ⟨hbackslash, hclose⟩ := ordinary
      by_cases hopen : c = '['
      · subst hopen
        exact expandFrom.eq_4 rest
      · simp only [ClassAtom.expansion, if_neg hopen]
        exact expandFrom_ordinary hbackslash hopen hclose rest
  | escaped c punctuation =>
      have hnone : replacement? true c = none := by
        refine replacement?_eq_none ?_
        simp only [isPunctuation, Bool.and_eq_true, Bool.not_eq_true'] at punctuation
        exact punctuation.2
      show expandFrom true ('\\' :: c :: rest) = '\\' :: c :: expandFrom true rest
      rw [expandFrom, hnone]
      rfl
  | backspace => rfl
  | shorthand s => cases s <;> rfl

theorem expandFrom_atoms (atoms : List ClassAtom) (rest : List Char) :
    expandFrom true (atoms.flatMap ClassAtom.text ++ rest) =
      atoms.flatMap ClassAtom.expansion ++ expandFrom true rest := by
  induction atoms with
  | nil => rfl
  | cons a more ih =>
      rw [List.flatMap_cons, List.flatMap_cons, List.append_assoc, List.append_assoc, expandFrom_atom, ih]

theorem expandFrom_caret (complemented : Bool) (rest : List Char) :
    expandFrom true ((if complemented then ['^'] else []) ++ rest) =
      (if complemented then ['^'] else []) ++ expandFrom true rest := by
  cases complemented with
  | true => exact expandFrom_ordinary (by decide) (by decide) (by decide) rest
  | false => rfl

/-- **A class is expanded atom by atom**, its brackets and its caret stay. -/
theorem expand_text (c : WrittenClass) :
    (expand (String.ofList c.text)).toList =
      '[' :: ((if c.complemented then ['^'] else []) ++
        (c.atoms.flatMap ClassAtom.expansion ++ [']'])) := by
  have hopen : ∀ rest, expandFrom false ('[' :: rest) = '[' :: expandFrom true rest := by
    intro rest
    rw [expandFrom]
  have hclose : expandFrom true [']'] = [']'] := by
    rw [expandFrom, expandFrom]
  rw [expand, String.toList_ofList, String.toList_ofList, WrittenClass.text, hopen, expandFrom_caret,
    expandFrom_atoms, hclose]

end Expansion

end JsonSchema.Pattern
