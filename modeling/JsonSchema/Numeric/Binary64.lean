/-!
# `JsonSchema.Numeric.Binary64` — finite double-precision numbers, held exactly

Every finite double is a whole multiple of 2⁻¹⁰⁷⁴. A `Binary64` is therefore a sign and a natural
number of such *units*, and every operation is arithmetic on naturals followed by one rounding.

## Contents
- **Grid.** `scale` (the units in one), `spacing` (the gap between neighbours), `Binary64`.
- **Rounding.** `roundDiv` (nearest, ties to even), `roundUnits`, and `spacing_dvd_roundUnits`:
  what rounding gives always lies on the grid, so overflow is its only failure.
- **Arithmetic.** `ofRatio?`, `mul?`, `div?`, `neg`, `isWhole`, `signedUnits`.
-/

namespace JsonSchema

-- Powers are those of the core library in every module, whatever a module imports beside it.
attribute [default_instance 20000, instance (20000)] instPowNat

namespace Binary64

/-- The number of units in the value one. -/
def scale : Nat := 2 ^ 1074

/-- Magnitudes stay below this many units, which is the value 2¹⁰²⁴. -/
def limit : Nat := 2 ^ 2098

/-- The gap between representable neighbours at a magnitude: 53 significant bits are kept. -/
def spacing (units : Nat) : Nat := 2 ^ (units.log2 - 52)

end Binary64

/-- A finite double: a sign (zero has one too) and a representable count of units. -/
structure Binary64 where
  negative : Bool
  units : Nat
  onGrid : Binary64.spacing units ∣ units
  inRange : units < Binary64.limit
deriving DecidableEq

namespace Binary64

/-! ## Rounding -/

/-- The quotient rounded to the nearest natural, a tie going to the even one. -/
def roundDiv (num den : Nat) : Nat :=
  let q := num / den
  let r := num % den
  if 2 * r < den then q
  else if den < 2 * r then q + 1
  else if q % 2 = 0 then q else q + 1

theorem roundDiv_le (num den : Nat) : roundDiv num den ≤ num / den + 1 := by
  unfold roundDiv
  grind

/-- The representable count of units nearest to the ratio, with no limit on its size. -/
def roundUnits (num den : Nat) : Nat :=
  let gap := spacing (num / den)
  roundDiv num (den * gap) * gap

theorem div_spacing_lt (q : Nat) : q / spacing q < 2 ^ 53 := by
  unfold spacing
  rw [Nat.div_lt_iff_lt_mul (Nat.two_pow_pos _), ← Nat.pow_add]
  refine Nat.lt_of_lt_of_le (Nat.lt_log2_self (n := q)) (Nat.pow_le_pow_right (by decide) ?_)
  omega

/-- A multiple of a power of two by at most 2⁵³ is on the grid. -/
theorem spacing_dvd_mul_two_pow (r k : Nat) (h : r ≤ 2 ^ 53) :
    spacing (r * 2 ^ k) ∣ r * 2 ^ k := by
  unfold spacing
  rcases Nat.eq_zero_or_pos r with rfl | hpos
  · simp
  rcases Nat.lt_or_eq_of_le h with hlt | rfl
  · refine Nat.dvd_trans (Nat.pow_dvd_pow 2 ?_) (Nat.dvd_mul_left _ _)
    have hne : r * 2 ^ k ≠ 0 := Nat.mul_ne_zero (by omega) (Nat.ne_of_gt (Nat.two_pow_pos k))
    have hlog : (r * 2 ^ k).log2 < 53 + k := by
      rw [Nat.log2_lt hne, Nat.pow_add]
      exact Nat.mul_lt_mul_of_pos_right hlt (Nat.two_pow_pos k)
    omega
  · rw [← Nat.pow_add]
    refine Nat.pow_dvd_pow 2 ?_
    rw [Nat.log2_two_pow]
    omega

/-- Rounding lands on the grid. -/
theorem spacing_dvd_roundUnits (num den : Nat) :
    spacing (roundUnits num den) ∣ roundUnits num den := by
  unfold roundUnits
  refine spacing_dvd_mul_two_pow _ _ ?_
  have h := roundDiv_le num (den * spacing (num / den))
  have hlt := div_spacing_lt (num / den)
  rw [Nat.div_div_eq_div_mul] at hlt
  omega

/-- The double nearest to a count of units given as a ratio; `none` when it is too large. -/
def ofUnitsRatio? (negative : Bool) (num den : Nat) : Option Binary64 :=
  if h : roundUnits num den < limit then
    some ⟨negative, roundUnits num den, spacing_dvd_roundUnits num den, h⟩
  else
    none

/-- The double nearest to a ratio; `none` when it is too large. -/
def ofRatio? (negative : Bool) (num den : Nat) : Option Binary64 :=
  ofUnitsRatio? negative (num * scale) den

/-! ## Arithmetic and views -/

theorem limit_pos : 0 < limit := by
  unfold limit
  apply Nat.two_pow_pos

/-- Zero with a sign. -/
def zero (negative : Bool) : Binary64 := ⟨negative, 0, Nat.dvd_zero _, limit_pos⟩

/-- The value with its sign turned round. -/
def neg (x : Binary64) : Binary64 := { x with negative := !x.negative }

/-- The product, rounded once. -/
def mul? (x y : Binary64) : Option Binary64 :=
  ofUnitsRatio? (x.negative != y.negative) (x.units * y.units) scale

/-- The quotient, rounded once; a zero divisor gives zero and is never used. -/
def div? (x y : Binary64) : Option Binary64 :=
  ofUnitsRatio? (x.negative != y.negative) (x.units * scale) y.units

/-- The exact value as a signed count of units; both zeros give zero. -/
def signedUnits (x : Binary64) : Int :=
  if x.negative then -(x.units : Int) else x.units

/-- Whether the value has no fractional part. -/
def isWhole (x : Binary64) : Bool := x.units % scale == 0

end Binary64

end JsonSchema
