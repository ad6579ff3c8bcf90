import JsonSchema.Numeric.Binary64

/-!
# `JsonSchema.Numeric.Shortest` — the fewest decimal digits that read back

A double is written with the shortest decimal that rounds to it again; among decimals of that
length the nearest one is taken.

## Contents
- **Digits.** `Binary64.shortest`: a natural number of digits and a power of ten.
- **Layout.** `DecimalStyle` (where positional notation ends, how an exponent is written) and
  `DecimalStyle.write`.
-/

namespace JsonSchema

namespace Binary64

/-- The ratio `digits · 10^power` as a numerator and a denominator. -/
def decimalRatio (digits : Nat) (power : Int) : Nat × Nat :=
  if 0 ≤ power then (digits * 10 ^ power.toNat, 1) else (digits, 10 ^ (-power).toNat)

/-- Whether the decimal `digits · 10^power` rounds to this magnitude. -/
def readsBack (units digits : Nat) (power : Int) : Bool :=
  let (num, den) := decimalRatio digits power
  roundUnits (num * scale) den == units

/-- The power of ten of the leading decimal digit of a magnitude that is not zero. -/
def leadingPower (units : Nat) : Int :=
  ((Nat.toDigits 10 (units * 10 ^ 400 / scale)).length : Int) - 401

/-- The decimal with last digit at `power` that reads back, if there is one: of the two
neighbours of the value on that grid the nearer one that reads back, a tie going to the even. -/
def onDecimalGrid? (units : Nat) (power : Int) : Option Nat :=
  let (num, den) :=
    if 0 ≤ power then (units, scale * 10 ^ power.toNat)
    else (units * 10 ^ (-power).toNat, scale)
  let below := num / den
  let near := roundDiv num den
  let far := if near = below then below + 1 else below
  if readsBack units near power then some near
  else if readsBack units far power then some far
  else none

/-- Drop zeros at the end of a digit count, raising the power of ten. -/
def stripZeros : Nat → Nat → Int → Nat × Int
  | 0, digits, power => (digits, power)
  | fuel + 1, digits, power =>
    if digits % 10 = 0 ∧ digits ≠ 0 then stripZeros fuel (digits / 10) (power + 1)
    else (digits, power)

/-- The shortest decimal of a magnitude: its digits as one natural and its power of ten. -/
def shortest (units : Nat) : Nat × Int :=
  if units = 0 then (0, 0)
  else
    let lead := leadingPower units
    let grids := (List.range 17).map fun n : Nat => lead - (n : Int)
    match grids.findSome? fun power => (onDecimalGrid? units power).map fun d => (d, power) with
    | some (digits, power) => stripZeros 20 digits power
    | none => (0, 0)

end Binary64

/-- How a decimal is laid out: values from `10^fixedFrom` up to but not including `10^fixedBelow`
are positional, all others scientific, with or without a sign on a positive exponent. -/
structure DecimalStyle where
  fixedFrom : Int
  fixedBelow : Int
  plusOnExponent : Bool

namespace DecimalStyle

/-- The layout of numbers in JSON text: `0.00001`, `1000.0`, `1e+16`. -/
def json : DecimalStyle := ⟨-5, 16, true⟩

/-- The layout of numbers that become member names: `0.00001`, `1000.0`, `1e16`. -/
def memberName : DecimalStyle := ⟨-5, 16, false⟩

/-- A magnitude in positional notation, always with a fraction. -/
def positional (digits : String) (power : Int) : String :=
  let count : Int := digits.length
  let point := count + power
  if 0 ≤ power then
    digits ++ String.ofList (List.replicate power.toNat '0') ++ ".0"
  else if 0 < point then
    String.ofList (digits.toList.take point.toNat) ++ "." ++
      String.ofList (digits.toList.drop point.toNat)
  else
    "0." ++ String.ofList (List.replicate (-point).toNat '0') ++ digits

/-- A magnitude in scientific notation: one digit before the point. -/
def scientific (style : DecimalStyle) (digits : String) (power : Int) : String :=
  let exponent := (digits.length : Int) - 1 + power
  let mantissa :=
    match digits.toList with
    | [] => ""
    | [d] => String.ofList [d]
    | d :: rest => String.ofList (d :: '.' :: rest)
  let sign := if 0 ≤ exponent ∧ style.plusOnExponent then "+" else ""
  mantissa ++ "e" ++ sign ++ toString exponent

/-- The text of a double. -/
def write (style : DecimalStyle) (x : Binary64) : String :=
  let (digits, power) := Binary64.shortest x.units
  let text := toString digits
  let lead := (text.length : Int) - 1 + power
  let magnitude :=
    if x.units = 0 then "0.0"
    else if style.fixedFrom ≤ lead ∧ lead < style.fixedBelow then positional text power
    else style.scientific text power
  (if x.negative then "-" else "") ++ magnitude

end DecimalStyle

end JsonSchema
