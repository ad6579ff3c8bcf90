import JsonSchema.Numeric.Binary64

/-!
# `JsonSchema.Proofs.Numeric.Rounding` — rounding finds the nearest double

A count of units is rounded to a multiple of the gap at its own magnitude. That no double at all is nearer
takes one more step, since doubles lie closer together below a power of two than above it: a double of a
smaller magnitude than the count lies below the power of two that the count has reached, and this power is
a double of the count's own gap.

## Contents
- **Scale.** `scale_pos`, `two_pow_mul_scale_lt_limit`.
- **Gaps.** `spacing_pos`, `spacing_dvd_two_pow`, `spacing_dvd_mul_scale`, `spacing_dvd_of_log2_le`.
- **Multiples.** `roundDiv_nearest`: of all multiples of a number none is nearer.
- **Doubles.** `roundUnits_nearest`, and from it `roundUnits_of_onGrid`, `roundUnits_pos`,
  `roundUnits_lt_limit`.
-/

namespace JsonSchema.Binary64

/-! ## Scale -/

theorem scale_pos : 0 < scale := by
  unfold scale
  apply Nat.two_pow_pos

/-- The powers of two below 2¹⁰²⁴ are in range. -/
theorem two_pow_mul_scale_lt_limit {k : Nat} (h : k < 1024) : 2 ^ k * scale < limit := by
  unfold scale limit
  calc 2 ^ k * 2 ^ 1074 = 2 ^ (k + 1074) := (Nat.pow_add 2 k 1074).symm
    _ < 2 ^ 2098 := Nat.pow_lt_pow_right (by decide) (by omega)

/-! ## Gaps -/

theorem spacing_pos (units : Nat) : 0 < spacing units := Nat.two_pow_pos _

/-- The gap at a power of two divides it. -/
theorem spacing_dvd_two_pow (k : Nat) : spacing (2 ^ k) ∣ 2 ^ k := by
  rw [spacing, Nat.log2_two_pow]
  exact Nat.pow_dvd_pow 2 (Nat.sub_le k 52)

/-- The values of naturals of at most 53 bits are on the grid. -/
theorem spacing_dvd_mul_scale {n : Nat} (h : n ≤ 2 ^ 53) : spacing (n * scale) ∣ n * scale := by
  unfold scale
  exact spacing_dvd_mul_two_pow n 1074 h

/-- What lies on the grid lies on that of every smaller magnitude. -/
theorem spacing_dvd_of_log2_le {units point : Nat} (hlog : units.log2 ≤ point.log2)
    (hpoint : spacing point ∣ point) : spacing units ∣ point := by
  refine Nat.dvd_trans (Nat.pow_dvd_pow 2 ?_) hpoint
  omega

/-! ## Multiples -/

/-- **No multiple is nearer** than the one that rounding gives. -/
theorem roundDiv_nearest {num den : Nat} (hden : 0 < den) (k : Nat) :
    ((roundDiv num den * den : Nat) - (num : Int)).natAbs ≤ ((k * den : Nat) - (num : Int)).natAbs := by
  have hnum : num / den * den + num % den = num := Nat.div_add_mod' num den
  have hmod : num % den < den := Nat.mod_lt num hden
  have hsucc : (num / den + 1) * den = num / den * den + den := Nat.succ_mul _ _
  -- a multiple is no more than the one below the number, or no less than the one above it
  have hk : k * den ≤ num / den * den ∨ (num / den + 1) * den ≤ k * den := by
    rcases Nat.lt_or_ge (num / den) k with hlt | hge
    · exact .inr (Nat.mul_le_mul_right den hlt)
    · exact .inl (Nat.mul_le_mul_right den hge)
  unfold roundDiv
  dsimp only
  split
  · omega
  · split
    · rw [hsucc]
      omega
    · split
      · omega
      · rw [hsucc]
        omega

/-! ## Doubles -/

/-- **No double is nearer** than the one that rounding gives. -/
theorem roundUnits_nearest (units : Nat) {point : Nat} (hpoint : spacing point ∣ point) :
    ((roundUnits units 1 : Int) - units).natAbs ≤ ((point : Int) - units).natAbs := by
  have hmultiple : ∀ {point : Nat}, spacing units ∣ point →
      ((roundUnits units 1 : Int) - units).natAbs ≤ ((point : Int) - units).natAbs := by
    rintro point ⟨k, rfl⟩
    rw [Nat.mul_comm, roundUnits, Nat.div_one, Nat.one_mul]
    exact roundDiv_nearest (spacing_pos units) k
  rcases Nat.lt_or_ge point.log2 units.log2 with hsmall | hlarge
  · -- the power of two that the count has reached lies between the point and the count
    have hne : units ≠ 0 := by
      rintro rfl
      exact Nat.not_lt_zero _ hsmall
    have hbelow : point < 2 ^ units.log2 := Nat.lt_of_lt_of_le Nat.lt_log2_self
      (Nat.pow_le_pow_right (by decide) hsmall)
    have habove : 2 ^ units.log2 ≤ units := Nat.log2_self_le hne
    have hlog : units.log2 ≤ (2 ^ units.log2).log2 := Nat.le_of_eq Nat.log2_two_pow.symm
    have hpower := hmultiple (spacing_dvd_of_log2_le hlog (spacing_dvd_two_pow units.log2))
    omega
  · exact hmultiple (spacing_dvd_of_log2_le hlarge hpoint)

/-- What is on the grid is not moved. -/
theorem roundUnits_of_onGrid {units : Nat} (h : spacing units ∣ units) : roundUnits units 1 = units := by
  have hnearest := roundUnits_nearest units h
  omega

/-- Nothing but zero is rounded to zero. -/
theorem roundUnits_pos {units : Nat} (h : 0 < units) : 0 < roundUnits units 1 := by
  have hnearest := roundUnits_nearest units (spacing_dvd_two_pow units.log2)
  have hpower : 2 ^ units.log2 ≤ units := Nat.log2_self_le (Nat.ne_of_gt h)
  have hpos : 0 < 2 ^ units.log2 := Nat.two_pow_pos _
  omega

/-- A count of less than half the limit is not rounded up to it, since zero is as near. -/
theorem roundUnits_lt_limit {units : Nat} (h : 2 * units < limit) : roundUnits units 1 < limit := by
  have hnearest := roundUnits_nearest units (Nat.dvd_zero _)
  omega

end JsonSchema.Binary64
