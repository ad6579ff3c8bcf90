import JsonSchema.Json.Value
import JsonSchema.Json.Fault
import JsonSchema.Text.Digits

/-!
# `JsonSchema.Json.Numeral` — number text, one character at a time

An integer that fits 64 bits stays an integer. Any other number becomes a double: its digits are
gathered into a 64-bit significand, digits that no longer fit are dropped, and the significand is
scaled by a power of ten. The scaling rounds at each step, so the result can differ in its last
bit from the nearest double.

## Contents
- **States.** `Numeral`, `Numeral.step`, `Numeral.atEnd`.
- **Value.** `scaled?` (significand times a power of ten) and `Numeral.number?`.
-/

namespace JsonSchema.Json

/-- The largest significand. -/
def maxSignificand : Nat := 2 ^ 64 - 1

/-- The largest exponent that is read; a longer one is out of range at once. -/
def maxExponent : Nat := 2 ^ 31 - 1

/-- How far a number has been read, its sign set aside. -/
inductive Numeral where
  /-- nothing yet, a digit must follow -/
  | start
  /-- a leading zero, which no digit may follow -/
  | zero
  /-- an integer whose digits all fit -/
  | integer (significand : Nat)
  /-- an integer whose last `dropped` digits did not fit -/
  | long (significand dropped : Nat)
  /-- just after the point -/
  | point (significand : Nat) (power : Int)
  /-- in the fraction -/
  | fraction (significand : Nat) (power : Int)
  /-- in the fraction, past the digits that fit -/
  | surplus (significand : Nat) (power : Int)
  /-- just after the exponent letter -/
  | exponentStart (significand : Nat) (power : Int)
  /-- after the sign of the exponent -/
  | exponentSign (significand : Nat) (power : Int) (negative : Bool)
  /-- in the digits of the exponent -/
  | exponent (significand : Nat) (power : Int) (negative : Bool) (digits : Nat)
  /-- in an exponent too long to matter, the value being zero -/
  | vanished

namespace Numeral

/-- What a character does to a number: it extends it, ends it (and is not part of it), or is
wrong there. -/
inductive Next where
  | more (state : Numeral)
  | finished
  | wrong (fault : Fault)

/-- The exponent letter or the end of a number whose digits are done. -/
def afterDigits (significand : Nat) (power : Int) (c : Char) : Next :=
  if c = 'e' ∨ c = 'E' then .more (.exponentStart significand power) else .finished

/-- The point, the exponent letter or the end after an integer part. -/
def afterInteger (significand : Nat) (power : Int) (c : Char) : Next :=
  if c = '.' then .more (.point significand power) else afterDigits significand power c

/-- A digit of the fraction, kept if the significand has room for it. -/
def fractionDigit (significand : Nat) (power : Int) (d : Nat) : Numeral :=
  if significand * 10 + d ≤ maxSignificand then .fraction (significand * 10 + d) (power - 1)
  else .surplus significand power

/-- One character of a number. -/
def step : Numeral → Char → Next
  | .start, c =>
    match Text.digit? 10 c with
    | some 0 => .more .zero
    | some d => .more (.integer d)
    | none => .wrong .invalidNumber
  | .zero, c =>
    match Text.digit? 10 c with
    | some _ => .wrong .invalidNumber
    | none => afterInteger 0 0 c
  | .integer s, c =>
    match Text.digit? 10 c with
    | some d =>
      if s * 10 + d ≤ maxSignificand then .more (.integer (s * 10 + d)) else .more (.long s 1)
    | none => afterInteger s 0 c
  | .long s n, c =>
    match Text.digit? 10 c with
    | some _ => .more (.long s (n + 1))
    | none => afterInteger s n c
  | .point s p, c =>
    match Text.digit? 10 c with
    | some d => .more (fractionDigit s p d)
    | none => .wrong .invalidNumber
  | .fraction s p, c =>
    match Text.digit? 10 c with
    | some d => .more (fractionDigit s p d)
    | none => afterDigits s p c
  | .surplus s p, c =>
    match Text.digit? 10 c with
    | some _ => .more (.surplus s p)
    | none => afterDigits s p c
  | .exponentStart s p, c =>
    if c = '+' then .more (.exponentSign s p false)
    else if c = '-' then .more (.exponentSign s p true)
    else match Text.digit? 10 c with
      | some d => .more (.exponent s p false d)
      | none => .wrong .invalidNumber
  | .exponentSign s p negative, c =>
    match Text.digit? 10 c with
    | some d => .more (.exponent s p negative d)
    | none => .wrong .invalidNumber
  | .exponent s p negative e, c =>
    match Text.digit? 10 c with
    | some d =>
      if e * 10 + d ≤ maxExponent then .more (.exponent s p negative (e * 10 + d))
      else if s = 0 ∨ negative then .more .vanished
      else .wrong .numberOutOfRange
    | none => .finished
  | .vanished, c =>
    match Text.digit? 10 c with
    | some _ => .more .vanished
    | none => .finished

/-- Whether the text may end here. -/
def complete : Numeral → Bool
  | .start | .point _ _ | .exponentStart _ _ | .exponentSign _ _ _ => false
  | _ => true

/-! ## Value -/

/-- Ten to a power of at most 308, as a double. -/
def tenTo? (n : Nat) : Option Binary64 := Binary64.ofRatio? false (10 ^ n) 1

/-- A double divided by ten to a power, in steps of at most 308 that round one by one. -/
def shrink? : Nat → Binary64 → Nat → Option Binary64
  | 0, _, _ => some (Binary64.zero false)
  | fuel + 1, x, n =>
    if n ≤ 308 then do x.div? (← tenTo? n)
    else if x.units = 0 then some x
    else do shrink? fuel (← x.div? (← tenTo? 308)) (n - 308)

/-- A significand times ten to a power; `none` when that is out of range. Five steps bring any
significand down to zero. -/
def scaled? (significand : Nat) (power : Int) : Option Binary64 := do
  let x ← Binary64.ofRatio? false significand 1
  if power < 0 then shrink? 5 x (-power).toNat
  else if power ≤ 308 then x.mul? (← tenTo? power.toNat)
  else if significand = 0 then some x
  else none

/-- A double with its sign. -/
def signed (negative : Bool) (x : Binary64) : Number :=
  .double (if negative then x.neg else x)

/-- An integer significand as a number: an integer where 64 bits hold it, a double otherwise
and for minus zero. -/
def integerNumber? (negative : Bool) (significand : Nat) : Option Number :=
  if negative then
    if 0 < significand ∧ significand ≤ 2 ^ 63 then Number.ofInt? (-(significand : Int))
    else (Binary64.ofRatio? false significand 1).map (signed true)
  else Number.ofNat? significand

/-- The number that has been read; `none` when it is out of range. -/
def number? (negative : Bool) : Numeral → Option Number
  | .zero => integerNumber? negative 0
  | .integer s => integerNumber? negative s
  | .long s n => (scaled? s n).map (signed negative)
  | .fraction s p | .surplus s p => (scaled? s p).map (signed negative)
  | .exponent s p down e =>
    (scaled? s (if down then p - e else p + e)).map (signed negative)
  | .vanished => some (signed negative (Binary64.zero false))
  | .start | .point _ _ | .exponentStart _ _ | .exponentSign _ _ _ => none

end Numeral

end JsonSchema.Json
