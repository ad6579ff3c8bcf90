import JsonSchema.Schema.Keyword
import JsonSchema.Proofs.Json.Numbers

/-!
# `JsonSchema.Proofs.Schema.Counts` — which limit on a length a value states

A limit on a length is a number, and is taken for its value: an integer, or a double without a fraction, of
either zero the number zero. The largest limit is 2⁶⁴ − 1, which no double has as its value. A double is
compared with 2⁶⁴ instead, the double nearest to it, so that this one value above all limits is let through
and then cut down to the largest limit. All other values are read exactly or not at all.

## Contents
- **Values.** `Value.States`, and `states_integer_iff` and `states_double_iff`, one for each way to hold a
  number.
- **Limits.** `Value.LimitsTo`, and `count?_eq_some_iff`, `count?_exact_iff`: what a value is read as.
-/

namespace JsonSchema

/-! ## Values -/

/-- A value is a number that equals a natural, exactly. -/
def Value.States (v : Value) (n : Nat) : Prop := ∃ a : Number, v = .number a ∧ a.value = n

section Values

variable {v : Value} {n m : Nat}

theorem Value.States.unique (h : v.States n) (h' : v.States m) : n = m := by
  obtain ⟨a, rfl, ha⟩ := h
  obtain ⟨b, hb, hvalue⟩ := h'
  cases hb
  exact Nat.cast_injective (ha.symm.trans hvalue)

theorem Number.value_eq_natCast_iff {a : Number} : a.value = n ↔ a.units = (n * Binary64.scale : Nat) := by
  rw [value_eq, div_eq_iff cast_scale_pos.ne']
  norm_cast

theorem states_integer_iff {m : Int} {low : -2 ^ 63 ≤ m} {high : m < 2 ^ 64} :
    (Value.number (.integer m low high)).States n ↔ m = n := by
  have hvalue : (Number.integer m low high).value = n ↔ m = n := by
    show (m : ℚ) = n ↔ m = n
    norm_cast
  simp [Value.States, hvalue]

/-- A double equals a natural if it has as many units as this has, and no sign that counts. -/
theorem states_double_iff {x : Binary64} :
    (Value.number (.double x)).States n ↔
      ¬(x.negative = true ∧ x.units ≠ 0) ∧ x.units = n * Binary64.scale := by
  have hvalue : (Number.double x).value = n ↔
      ¬(x.negative = true ∧ x.units ≠ 0) ∧ x.units = n * Binary64.scale := by
    rw [Number.value_eq_natCast_iff]
    show x.signedUnits = (n * Binary64.scale : Nat) ↔ _
    generalize n * Binary64.scale = units
    unfold Binary64.signedUnits
    cases x.negative with
    | true =>
        simp only [if_true, true_and]
        omega
    | false =>
        simp only [Bool.false_eq_true, if_false, false_and, not_false_eq_true, true_and]
        omega
  simp [Value.States, hvalue]

end Values

/-! ## Limits -/

/-- The limit that a value is read as: the number that it states, but for 2⁶⁴ the number before it. -/
def Value.LimitsTo (v : Value) (n : Nat) : Prop :=
  n < 2 ^ 64 ∧ v.States n ∨ n = 2 ^ 64 - 1 ∧ v.States (2 ^ 64)

section Limits

variable {v : Value} {n : Nat}

theorem count?_integer {m : Int} {low : -2 ^ 63 ≤ m} {high : m < 2 ^ 64} :
    (Value.number (.integer m low high)).count? = some n ↔
      (Value.number (.integer m low high)).LimitsTo n := by
  rw [Value.count?, Value.LimitsTo, states_integer_iff, states_integer_iff, Option.ite_none_right_eq_some,
    Option.some.injEq]
  omega

theorem count?_double {x : Binary64} :
    (Value.number (.double x)).count? = some n ↔ (Value.number (.double x)).LimitsTo n := by
  rw [Value.LimitsTo, states_double_iff, states_double_iff]
  simp only [Value.count?, Value.maxCount, Binary64.isWhole, Option.ite_none_left_eq_some, Option.some.injEq,
    Bool.or_eq_true, Bool.and_eq_true, bne_iff_ne, ne_eq, Bool.not_eq_true', beq_eq_false_iff_ne,
    decide_eq_true_eq, not_or, not_not, Nat.not_lt, and_assoc]
  constructor
  · rintro ⟨hsign, hwhole, hle, hread⟩
    have hunits : x.units = x.units / Binary64.scale * Binary64.scale :=
      (Nat.div_mul_cancel (Nat.dvd_of_mod_eq_zero hwhole)).symm
    have hquotient : x.units / Binary64.scale ≤ 2 ^ 64 := Nat.div_le_of_le_mul (Nat.mul_comm _ _ ▸ hle)
    generalize x.units / Binary64.scale = q at hunits hquotient hread
    -- only the double 2⁶⁴ is cut down
    rcases Nat.lt_or_eq_of_le hquotient with hlt | rfl
    · obtain rfl : q = n := by omega
      exact .inl ⟨hlt, hsign, hunits⟩
    · exact .inr ⟨by omega, hsign, hunits⟩
  · rintro (⟨hlt, hsign, hunits⟩ | ⟨rfl, hsign, hunits⟩)
    · rw [hunits, Nat.mul_div_cancel _ Binary64.scale_pos]
      exact ⟨hunits ▸ hsign, Nat.mul_mod_left _ _, Nat.mul_le_mul_right _ (Nat.le_of_lt hlt), by omega⟩
    · rw [hunits, Nat.mul_div_cancel _ Binary64.scale_pos]
      exact ⟨hunits ▸ hsign, Nat.mul_mod_left _ _, Nat.le_refl _, by omega⟩

/-- **What a value is read as.** -/
theorem count?_eq_some_iff : v.count? = some n ↔ v.LimitsTo n := by
  cases v with
  | number a =>
      cases a with
      | integer m low high => exact count?_integer
      | double x => exact count?_double
  | _ =>
      refine iff_of_false (fun h => by cases h) ?_
      rintro (⟨-, a, hnumber, -⟩ | ⟨-, a, hnumber, -⟩) <;> cases hnumber

theorem count?_eq_none_iff : v.count? = none ↔ ∀ n, ¬v.LimitsTo n := by
  rw [Option.eq_none_iff_forall_ne_some]
  exact forall_congr' fun n => not_congr count?_eq_some_iff

/-- Reading is exact for all values but 2⁶⁴. -/
theorem count?_exact_iff :
    (∀ n, v.count? = some n ↔ n ≤ 2 ^ 64 - 1 ∧ v.States n) ↔ ¬v.States (2 ^ 64) := by
  have hmax : ∀ n : Nat, n ≤ 2 ^ 64 - 1 ↔ n < 2 ^ 64 := fun n => by omega
  simp only [count?_eq_some_iff, Value.LimitsTo, hmax]
  constructor
  · intro hexact hstates
    have hbelow := ((hexact (2 ^ 64 - 1)).mp (.inr ⟨rfl, hstates⟩)).2
    exact absurd (Value.States.unique hbelow hstates) (by decide)
  · intro hnot n
    exact ⟨fun h => h.resolve_right fun hcut => hnot hcut.2, .inl⟩

end Limits

end JsonSchema
