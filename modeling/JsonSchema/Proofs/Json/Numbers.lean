import Mathlib.Algebra.Order.Field.Rat
import Mathlib.Algebra.Order.Field.Basic
import Mathlib.Data.Rat.Cast.Defs
import Mathlib.Order.Compare
import JsonSchema.Json.Value
import JsonSchema.Proofs.Numeric.Rounding

/-!
# `JsonSchema.Proofs.Json.Numbers` — the value of a number, and what comparing looks at

A number denotes a rational, be it an integer or a double. Two integers are compared as such. As soon as a
double takes part, both numbers are compared as doubles, and an integer stands for the double nearest to
it. Where this double has the integer's own value nothing is lost; beyond 2⁵³ there are integers whose
value no double has.

## Contents
- **Values.** `Number.value`, `Number.units`, and `value_eq_iff`.
- **Doubles.** `Number.toDouble` and its value `rounded`, to which none is nearer: `abs_rounded_sub_le`;
  `HasDouble`, and `rounded_eq_value` for such numbers.
- **Comparing.** `compare_integer`, `compare_toDouble`.
- **Equality.** `compare_eq_iff_value`, `compare_eq_iff_rounded`, `compare_exact_iff`; the laws `compare_self`,
  `compare_swap` and `compare_trans`.
- **Relations.** `Number.Compared`, and by it `Number.EqualTo` and `Number.Below`: what each answer of the
  comparison says of the two values.
-/

namespace JsonSchema.Number

/-! ## Values -/

/-- The rational that a number denotes. -/
def value : Number → ℚ
  | .integer n _ _ => n
  | .double x => x.signedUnits / Binary64.scale

/-- The value counted in units. It is on the grid of doubles if a double has it. -/
def units : Number → Int
  | .integer n _ _ => n * Binary64.scale
  | .double x => x.signedUnits

theorem cast_scale_pos : (0 : ℚ) < Binary64.scale := Nat.cast_pos.mpr Binary64.scale_pos

theorem value_eq (a : Number) : a.value = a.units / Binary64.scale := by
  cases a with
  | integer n low high =>
      show (n : ℚ) = ((n * Binary64.scale : Int) : ℚ) / Binary64.scale
      rw [Int.cast_mul, Int.cast_natCast, mul_div_cancel_right₀ _ cast_scale_pos.ne']
  | double x => rfl

theorem value_eq_iff {a b : Number} : a.value = b.value ↔ a.units = b.units := by
  rw [value_eq, value_eq, div_left_inj' cast_scale_pos.ne', Int.cast_inj]

theorem value_lt_iff {a b : Number} : a.value < b.value ↔ a.units < b.units := by
  rw [value_eq, value_eq, div_lt_div_iff_of_pos_right cast_scale_pos, Int.cast_lt]

/-- How far two values lie apart, in units. -/
theorem abs_value_sub (a b : Number) :
    |a.value - b.value| = ((a.units - b.units).natAbs : ℚ) / Binary64.scale := by
  rw [value_eq, value_eq, ← sub_div, abs_div, abs_of_pos cast_scale_pos, ← Int.cast_sub, ← Int.cast_abs,
    Int.abs_eq_natAbs, Int.cast_natCast]

/-! ## Doubles -/

/-- An integer that 64 bits hold is rounded to a finite double. -/
theorem roundUnits_integer_lt {n : Int} (low : -2 ^ 63 ≤ n) (high : n < 2 ^ 64) :
    Binary64.roundUnits (n.natAbs * Binary64.scale) 1 < Binary64.limit := by
  refine Binary64.roundUnits_lt_limit ?_
  have hn : 2 * n.natAbs ≤ 2 ^ 65 := by omega
  calc 2 * (n.natAbs * Binary64.scale) = 2 * n.natAbs * Binary64.scale := (Nat.mul_assoc ..).symm
    _ ≤ 2 ^ 65 * Binary64.scale := Nat.mul_le_mul_right _ hn
    _ < Binary64.limit := Binary64.two_pow_mul_scale_lt_limit (by decide)

/-- The double that a number is compared as when a double takes part. -/
def toDouble : Number → Binary64
  | .integer n low high => {
      negative := decide (n < 0)
      units := Binary64.roundUnits (n.natAbs * Binary64.scale) 1
      onGrid := Binary64.spacing_dvd_roundUnits _ _
      inRange := roundUnits_integer_lt low high }
  | .double x => x

theorem doubleUnits_eq (a : Number) : a.doubleUnits = a.toDouble.signedUnits := by
  cases a with
  | integer n low high => simp only [doubleUnits, toDouble, Binary64.signedUnits, decide_eq_true_eq]
  | double x => rfl

theorem units_integer {n : Int} {low : -2 ^ 63 ≤ n} {high : n < 2 ^ 64} :
    (integer n low high).units =
      if n < 0 then -((n.natAbs * Binary64.scale : Nat) : Int) else (n.natAbs * Binary64.scale : Nat) := by
  show n * Binary64.scale = _
  split
  · rw [Int.natCast_mul, Int.ofNat_natAbs_of_nonpos (by omega), Int.neg_mul, Int.neg_neg]
  · rw [Int.natCast_mul, Int.natAbs_of_nonneg (by omega)]

/-- **No double is nearer to a number** than the one that it is compared as. -/
theorem toDouble_nearest (a : Number) (y : Binary64) :
    (a.toDouble.signedUnits - a.units).natAbs ≤ (y.signedUnits - a.units).natAbs := by
  cases a with
  | double x =>
      show (x.signedUnits - x.signedUnits).natAbs ≤ _
      rw [Int.sub_self]
      exact Nat.zero_le _
  | integer n low high =>
      have hpoint := Binary64.roundUnits_nearest (n.natAbs * Binary64.scale) y.onGrid
      -- a double of the other sign is no nearer than zero
      have hzero := Binary64.roundUnits_nearest (n.natAbs * Binary64.scale) (Nat.dvd_zero _)
      rw [← doubleUnits_eq, doubleUnits, units_integer, Binary64.signedUnits]
      generalize n.natAbs * Binary64.scale = whole at hpoint hzero
      generalize Binary64.roundUnits whole 1 = rounded at hpoint hzero
      split <;> split <;> omega

/-- The value of the double that a number is compared as. -/
def rounded (a : Number) : ℚ := (double a.toDouble).value

/-- The same as distances of values. -/
theorem abs_rounded_sub_le (a : Number) (y : Binary64) :
    |a.rounded - a.value| ≤ |(double y).value - a.value| := by
  rw [rounded, abs_value_sub, abs_value_sub]
  exact div_le_div_of_nonneg_right (Nat.cast_le.mpr (a.toDouble_nearest y)) cast_scale_pos.le

/-- Some double has the value of the number. -/
def HasDouble (a : Number) : Prop := ∃ x : Binary64, (double x).value = a.value

theorem hasDouble_iff {a : Number} : a.HasDouble ↔ ∃ x : Binary64, x.signedUnits = a.units :=
  exists_congr fun x => value_eq_iff (a := double x)

theorem hasDouble_double (x : Binary64) : (double x).HasDouble := ⟨x, rfl⟩

/-- If some double has the value of a number, the number is compared by this value. -/
theorem rounded_eq_value {a : Number} (h : a.HasDouble) : a.rounded = a.value := by
  obtain ⟨x, hx⟩ := hasDouble_iff.mp h
  have hnearest := a.toDouble_nearest x
  have hunits : a.toDouble.signedUnits = a.units := by omega
  exact value_eq_iff.mpr hunits

/-- The value of an integer of at most 53 bits is that of a double. -/
theorem hasDouble_integer {n : Int} {low : -2 ^ 63 ≤ n} {high : n < 2 ^ 64} (h : n.natAbs ≤ 2 ^ 53) :
    (integer n low high).HasDouble := by
  have hgrid := Binary64.spacing_dvd_mul_scale h
  have hunits : (integer n low high).toDouble.signedUnits = (integer n low high).units := by
    rw [← doubleUnits_eq, doubleUnits, units_integer, Binary64.roundUnits_of_onGrid hgrid]
  exact hasDouble_iff.mpr ⟨_, hunits⟩

/-! ## Comparing -/

/-- The number is held as an integer. -/
def IsInteger : Number → Prop
  | .integer _ _ _ => True
  | .double _ => False

/-- **As soon as a double takes part** both numbers are compared as doubles. -/
theorem compare_toDouble {a b : Number} (h : ¬(a.IsInteger ∧ b.IsInteger)) :
    a.compare b = Ord.compare a.toDouble.signedUnits b.toDouble.signedUnits := by
  rw [← doubleUnits_eq, ← doubleUnits_eq, compare]
  cases a with
  | double x => rfl
  | integer n low high =>
      cases b with
      | integer m low' high' => exact absurd ⟨trivial, trivial⟩ h
      | double y => cases signed? (integer n low high) <;> cases unsigned? (integer n low high) <;> rfl

section Integers

variable {n m : Int} {low : -2 ^ 63 ≤ n} {high : n < 2 ^ 64} {low' : -2 ^ 63 ≤ m} {high' : m < 2 ^ 64}

/-- A negative integer is below one that is not, also when they are compared as doubles. -/
theorem doubleUnits_lt_of_neg (hneg : n < 0) (hpos : 0 < m) :
    (integer n low high).doubleUnits < (integer m low' high').doubleUnits := by
  have hround : 0 < Binary64.roundUnits (m.natAbs * Binary64.scale) 1 :=
    Binary64.roundUnits_pos (Nat.mul_pos (Int.natAbs_pos.mpr hpos.ne') Binary64.scale_pos)
  rw [doubleUnits, doubleUnits, if_pos hneg, if_neg (by omega)]
  omega

theorem compare_toNat (hn : 0 ≤ n) (hm : 0 ≤ m) : Ord.compare n.toNat m.toNat = Ord.compare n m := by
  rcases lt_trichotomy n m with hlt | rfl | hgt
  · rw [compare_lt_iff_lt.mpr hlt, compare_lt_iff_lt]
    omega
  · rw [compare_eq_iff_eq.mpr rfl, compare_eq_iff_eq.mpr rfl]
  · rw [compare_gt_iff_gt.mpr hgt, compare_gt_iff_gt]
    omega

/-- **Integers are compared exactly**, over the whole range of both 64-bit views. -/
theorem compare_integer : (integer n low high).compare (integer m low' high') = Ord.compare n m := by
  rw [compare]
  split
  · next x y hx hy =>
    simp only [signed?, Option.ite_none_right_eq_some, Option.some.injEq] at hx hy
    rw [hx.2, hy.2]
  · next hsigned =>
    split
    · next x y hx hy =>
      simp only [unsigned?, Option.ite_none_right_eq_some, Option.some.injEq] at hx hy
      rw [← hx.2, ← hy.2, compare_toNat hx.1 hy.1]
    · next hunsigned =>
      -- no view holds both: one is negative, the other one is too large for the signed view
      have hwide : ¬(n < 2 ^ 63 ∧ m < 2 ^ 63) := fun h => hsigned n m (if_pos h.1) (if_pos h.2)
      have hnegative : ¬(0 ≤ n ∧ 0 ≤ m) := fun h => hunsigned _ _ (if_pos h.1) (if_pos h.2)
      by_cases hneg : n < 0
      · rw [compare_lt_iff_lt.mpr (doubleUnits_lt_of_neg hneg (by omega)), compare_lt_iff_lt.mpr (by omega)]
      · rw [compare_gt_iff_gt.mpr (doubleUnits_lt_of_neg (by omega) (by omega)),
          compare_gt_iff_gt.mpr (by omega)]

end Integers

/-! ## Equality -/

/-- Integers are equal only if they are the same. -/
theorem compare_eq_iff_of_isInteger {a b : Number} (ha : a.IsInteger) (hb : b.IsInteger) :
    a.compare b = .eq ↔ a = b := by
  cases a with
  | double x => exact ha.elim
  | integer n low high =>
      cases b with
      | double y => exact hb.elim
      | integer m low' high' => rw [compare_integer, compare_eq_iff_eq, integer.injEq]

/-- As soon as a double takes part, numbers are equal that are rounded to one value. -/
theorem compare_eq_iff_rounded {a b : Number} (h : ¬(a.IsInteger ∧ b.IsInteger)) :
    a.compare b = .eq ↔ a.rounded = b.rounded := by
  rw [compare_toDouble h, compare_eq_iff_eq]
  exact (value_eq_iff (a := double a.toDouble) (b := double b.toDouble)).symm

/-- Numbers that are equal are rounded to one value, whether or not they are compared as doubles. -/
theorem rounded_eq_of_compare {a b : Number} (h : a.compare b = .eq) : a.rounded = b.rounded := by
  by_cases hintegers : a.IsInteger ∧ b.IsInteger
  · rw [(compare_eq_iff_of_isInteger hintegers.1 hintegers.2).mp h]
  · exact (compare_eq_iff_rounded hintegers).mp h

theorem eq_of_value_eq {a b : Number} (ha : a.IsInteger) (hb : b.IsInteger) (h : a.value = b.value) :
    a = b := by
  cases a with
  | double x => exact ha.elim
  | integer n low high =>
      cases b with
      | double y => exact hb.elim
      | integer m low' high' =>
          obtain rfl : n = m := Int.cast_inj.mp h
          rfl

/-- **Two integers are equal by value.** -/
theorem compare_eq_iff_value {a b : Number} (ha : a.IsInteger) (hb : b.IsInteger) :
    a.compare b = .eq ↔ a.value = b.value := by
  rw [compare_eq_iff_of_isInteger ha hb]
  exact ⟨congrArg value, eq_of_value_eq ha hb⟩

/-- Numbers of one value are rounded to one value. -/
theorem rounded_eq_of_value_eq {a b : Number} (h : a.value = b.value) : a.rounded = b.rounded := by
  by_cases hintegers : a.IsInteger ∧ b.IsInteger
  · rw [eq_of_value_eq hintegers.1 hintegers.2 h]
  · -- one of the two is a double, so that some double has their value
    have hdouble : a.HasDouble ∧ b.HasDouble := by
      cases a with
      | double x => exact ⟨hasDouble_double x, x, h⟩
      | integer n low high =>
          cases b with
          | double y => exact ⟨⟨y, h.symm⟩, hasDouble_double y⟩
          | integer m low' high' => exact absurd ⟨trivial, trivial⟩ hintegers
    rw [rounded_eq_value hdouble.1, rounded_eq_value hdouble.2, h]

/-- **Where equality is equality by value**: of two integers, and of numbers that rounding does not make one
though they are two. -/
theorem compare_exact_iff {a b : Number} :
    (a.compare b = .eq ↔ a.value = b.value) ↔
      a.IsInteger ∧ b.IsInteger ∨ (a.rounded = b.rounded → a.value = b.value) := by
  by_cases hintegers : a.IsInteger ∧ b.IsInteger
  · exact iff_of_true (compare_eq_iff_value hintegers.1 hintegers.2) (.inl hintegers)
  · rw [or_iff_right hintegers, compare_eq_iff_rounded hintegers]
    exact ⟨Iff.mp, fun h => ⟨h, rounded_eq_of_value_eq⟩⟩

theorem compare_self (a : Number) : a.compare a = .eq := by
  by_cases hinteger : a.IsInteger
  · exact (compare_eq_iff_of_isInteger hinteger hinteger).mpr rfl
  · exact (compare_eq_iff_rounded fun h => hinteger h.1).mpr rfl

/-- Two numbers compare the other way round when they change places. -/
theorem compare_swap (a b : Number) : b.compare a = (a.compare b).swap := by
  by_cases hintegers : a.IsInteger ∧ b.IsInteger
  · cases a with
    | double x => exact hintegers.1.elim
    | integer n low high =>
        cases b with
        | double y => exact hintegers.2.elim
        | integer m low' high' =>
            rw [compare_integer, compare_integer]
            exact Std.OrientedCmp.eq_swap
  · rw [compare_toDouble hintegers, compare_toDouble fun h => hintegers h.symm]
    exact Std.OrientedCmp.eq_swap

theorem compare_eq_comm {a b : Number} : a.compare b = .eq ↔ b.compare a = .eq := by
  rw [compare_swap a b, Ordering.swap_eq_eq]

/-- **Two numbers that are equal to a third one are equal**, unless this one is a double and one of the two
is rounded to it from another value. -/
theorem compare_trans {a b c : Number} (h : b.IsInteger ∨ a.HasDouble ∧ c.HasDouble)
    (hab : a.compare b = .eq) (hbc : b.compare c = .eq) : a.compare c = .eq := by
  have hround : a.rounded = c.rounded := (rounded_eq_of_compare hab).trans (rounded_eq_of_compare hbc)
  by_cases hintegers : a.IsInteger ∧ c.IsInteger
  · rcases h with hb | ⟨ha, hc⟩
    · rw [(compare_eq_iff_of_isInteger hintegers.1 hb).mp hab]
      exact hbc
    · rw [rounded_eq_value ha, rounded_eq_value hc] at hround
      exact (compare_eq_iff_value hintegers.1 hintegers.2).mpr hround
  · exact (compare_eq_iff_rounded hintegers).mpr hround

/-! ## Relations -/

/-- A relation between the values that two numbers are compared by: their own if both are integers, and as
soon as a double takes part those that they are rounded to. -/
def Compared (related : ℚ → ℚ → Prop) (a b : Number) : Prop :=
  a.IsInteger ∧ b.IsInteger ∧ related a.value b.value ∨
    ¬(a.IsInteger ∧ b.IsInteger) ∧ related a.rounded b.rounded

/-- The two numbers are equal. -/
def EqualTo : Number → Number → Prop := Compared (· = ·)

/-- The first number is below the second. -/
def Below : Number → Number → Prop := Compared (· < ·)

section Relations

variable {related : ℚ → ℚ → Prop} {a b : Number}

theorem compared_of_integers (ha : a.IsInteger) (hb : b.IsInteger) :
    Compared related a b ↔ related a.value b.value := by
  simp [Compared, ha, hb]

theorem compared_of_double (h : ¬(a.IsInteger ∧ b.IsInteger)) :
    Compared related a b ↔ related a.rounded b.rounded := by
  rw [Compared, ← and_assoc, and_iff_right h]
  exact or_iff_right fun hintegers => h hintegers.1

theorem compare_eq_iff_equalTo : a.compare b = .eq ↔ a.EqualTo b := by
  by_cases h : a.IsInteger ∧ b.IsInteger
  · rw [compare_eq_iff_value h.1 h.2, EqualTo, compared_of_integers h.1 h.2]
  · rw [compare_eq_iff_rounded h, EqualTo, compared_of_double h]

theorem compare_lt_iff_below : a.compare b = .lt ↔ a.Below b := by
  by_cases h : a.IsInteger ∧ b.IsInteger
  · rw [Below, compared_of_integers h.1 h.2]
    cases a with
    | double x => exact h.1.elim
    | integer n low high =>
        cases b with
        | double y => exact h.2.elim
        | integer m low' high' =>
            rw [compare_integer, compare_lt_iff_lt]
            exact Int.cast_lt.symm
  · rw [Below, compared_of_double h, compare_toDouble h, compare_lt_iff_lt]
    exact (value_lt_iff (a := double a.toDouble) (b := double b.toDouble)).symm

theorem compare_gt_iff_below : a.compare b = .gt ↔ b.Below a := by
  rw [← compare_lt_iff_below, compare_swap a b, Ordering.swap_eq_lt]

end Relations

end JsonSchema.Number
