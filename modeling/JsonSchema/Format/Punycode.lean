/-!
# `JsonSchema.Format.Punycode` — other letters in letters and digits

A label with characters outside ASCII is written as its ASCII characters, a hyphen, and numbers
that say where the others go. Each number counts steps through code points and places at once, in
digits of base 36 whose thresholds adapt.

## Contents
- **Digits.** `digit?`, `threshold`, `adapt`.
- **Decoding.** `Decoder`, `Decoder.step`, `decode?`.
-/

namespace JsonSchema.Format.Punycode

/-! ## Digits -/

/-- The value of a digit. -/
def digit? (c : Char) : Option Nat :=
  if 'a' ≤ c ∧ c ≤ 'z' then some (c.toNat - 'a'.toNat)
  else if 'A' ≤ c ∧ c ≤ 'Z' then some (c.toNat - 'A'.toNat)
  else if '0' ≤ c ∧ c ≤ '9' then some (c.toNat - '0'.toNat + 26)
  else none

/-- The digit below which a number ends, at a place that counts in steps of 36. -/
def threshold (place bias : Nat) : Nat := max 1 (min 26 (place - bias))

/-- Divide by 35 until small, and count the divisions. -/
def shrink (delta divisions : Nat) : Nat × Nat :=
  if 455 < delta then shrink (delta / 35) (divisions + 1) else (delta, divisions)
termination_by delta
decreasing_by exact Nat.div_lt_self (by omega) (by omega)

/-- The bias after a number, which fits the size of the next one to it. -/
def adapt (delta count : Nat) (first : Bool) : Nat :=
  let start := if first then delta / 700 else delta / 2
  let (rest, divisions) := shrink (start + start / count) 0
  36 * divisions + 36 * rest / (rest + 38)

/-! ## Decoding -/

/-- What has been decoded, and the number being read. -/
structure Decoder where
  /-- The code points so far. -/
  points : List Nat
  /-- The code point at hand. -/
  point : Nat
  /-- The place at hand, which the number being read adds to. -/
  place : Nat
  /-- The place before the number being read. -/
  before : Nat
  bias : Nat
  /-- The weight of the next digit, and where it stands. -/
  weight : Nat
  position : Nat
deriving DecidableEq

namespace Decoder

/-- Nothing but the ASCII characters. -/
def start (basic : List Nat) : Decoder := ⟨basic, 128, 0, 0, 72, 1, 36⟩

/-- Whether no number has been begun. -/
def atRest (d : Decoder) : Bool := d.position == 36

/-- Put a code point in when its number is complete. -/
def place? (d : Decoder) (reached : Nat) : Option Decoder :=
  let count := d.points.length + 1
  let point := d.point + reached / count
  let place := reached % count
  if point.isValidChar then
    some
      { points := d.points.insertIdx place point, point, place := place + 1, before := place + 1,
        bias := adapt (reached - d.before) count (d.before == 0), weight := 1, position := 36 }
  else none

/-- Read one digit. -/
def step (d : Decoder) (c : Char) : Option Decoder :=
  (digit? c).bind fun digit =>
    let t := threshold d.position d.bias
    let reached := d.place + digit * d.weight
    if digit < t then d.place? reached
    else
      some { d with place := reached, weight := d.weight * (36 - t), position := d.position + 36 }

end Decoder

/-- The text that an encoded label stands for. The last hyphen ends its ASCII characters. -/
def decode? (encoded : List Char) : Option (List Char) :=
  let digits := (encoded.reverse.takeWhile (· != '-')).reverse
  let basic := encoded.take (encoded.length - digits.length - 1)
  if basic.any fun c => 128 ≤ c.toNat then none
  else
    match digits.foldlM Decoder.step (.start (basic.map Char.toNat)) with
    | some d => if d.atRest then some (d.points.map Char.ofNat) else none
    | none => none

end JsonSchema.Format.Punycode
