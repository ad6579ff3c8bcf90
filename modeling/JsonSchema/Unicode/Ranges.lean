/-!
# `JsonSchema.Unicode.Ranges` — sets of code points as sorted ranges

Tables are written as text: a blank-separated list in which each range gives the gap since the
range before it and its own length.

## Contents
- **Sets.** `Ranges`, `Ranges.contains`.
- **Tables.** `numbers` (the naturals in a text), `Ranges.ofText`.
-/

namespace JsonSchema.Unicode

/-- Disjoint ranges of code points, both ends included, in rising order. -/
abbrev Ranges := List (Nat × Nat)

/-- Whether a code point lies in one of the ranges. -/
def Ranges.contains : Ranges → Nat → Bool
  | [], _ => false
  | (low, high) :: rest, n =>
    if n < low then false else if n ≤ high then true else Ranges.contains rest n

/-- One character of a list of naturals: those that are complete, last first, and the one at
hand. -/
def numbersStep : List Nat × Option Nat → Char → List Nat × Option Nat
  | (done, current), c =>
    if '0' ≤ c ∧ c ≤ '9' then
      (done, some (current.getD 0 * 10 + (c.toNat - '0'.toNat)))
    else match current with
      | some n => (n :: done, none)
      | none => (done, none)

/-- The naturals in a text, separated by anything that is not a digit. -/
def numbers (text : String) : List Nat :=
  let (done, current) := text.toList.foldl numbersStep ([], none)
  (current.toList ++ done).reverse

/-- Ranges from gaps and lengths, the next gap being counted from a code point. -/
def Ranges.ofGaps : Nat → List Nat → Ranges
  | start, gap :: length :: rest =>
    (start + gap, start + gap + length - 1) :: Ranges.ofGaps (start + gap + length) rest
  | _, _ => []

/-- The ranges that a table gives. -/
def Ranges.ofText (text : String) : Ranges := Ranges.ofGaps 0 (numbers text)

end JsonSchema.Unicode
