import JsonSchema.Proofs.Json.Numbers
import JsonSchema.Proofs.Schema.Constants

/-!
# `JsonSchema.Proofs.Schema.Bounds` — bounds on integers

A bound is broken or not by how two numbers compare, and numbers are compared by one of three routes. Two
of them hold both numbers in a 64-bit view. The third rounds both to doubles, and is taken by two integers
only if one is negative and the other too large for the signed view: such a pair differs in sign, and
rounding keeps signs apart. So between integers every bound is exact, however far apart or close they are.

## Contents
- **Comparing integers.** `beq_lt_integer`, `beq_gt_integer`, and their complements.
- **Reports.** `Verdict.about`, and `about_bound`: what a keyword that bounds a number reports. Main statement
  `integer_bounds_exact`.
-/

namespace JsonSchema

/-! ## Comparing integers -/

section Integers

variable {n m : Int} {low : -2 ^ 63 ≤ n} {high : n < 2 ^ 64} {low' : -2 ^ 63 ≤ m} {high' : m < 2 ^ 64}

theorem beq_lt_integer :
    ((Number.integer n low high).compare (.integer m low' high') == .lt) = decide (n < m) := by
  rw [Number.compare_integer, Bool.eq_iff_iff, beq_iff_eq, decide_eq_true_iff]
  exact compare_lt_iff_lt

theorem beq_gt_integer :
    ((Number.integer n low high).compare (.integer m low' high') == .gt) = decide (m < n) := by
  rw [Number.compare_integer, Bool.eq_iff_iff, beq_iff_eq, decide_eq_true_iff]
  exact compare_gt_iff_gt

/-- An integer fails to be above another one if it is at most this one. -/
theorem bne_gt_integer :
    ((Number.integer n low high).compare (.integer m low' high') != .gt) = decide (n ≤ m) := by
  rw [bne, beq_gt_integer, ← decide_not, decide_eq_decide]
  exact Int.not_lt

/-- An integer fails to be below another one if it is at least this one. -/
theorem bne_lt_integer :
    ((Number.integer n low high).compare (.integer m low' high') != .lt) = decide (m ≤ n) := by
  rw [bne, beq_lt_integer, ← decide_not, decide_eq_decide]
  exact Int.not_lt

end Integers

/-! ## Reports -/

/-- The violations of one keyword. -/
def Verdict.about (verdict : Verdict) (k : Keyword) : List Violation :=
  verdict.violations.filter fun e => e.keyword = k.name

section Reports

variable {policy : FormatPolicy} {rules : Rules} {a limit : Number} {k : Keyword}
  {broken : Number → Bool} {breach : Number → Breach}

/-- A number has no parts, so that its violations are its own. -/
theorem violations_number (schema : Value) :
    (validate policy schema (.number a)).violations = ownViolations policy schema (.number a) := by
  rw [violations_eq, parts_eq_nil fun _ => rfl, List.flatMap_nil, List.append_nil]

/-- **What a bound reports of a number**: one violation if it is broken, none if it is not. -/
theorem about_bound (hopen : rules.opens (.number a) = true)
    (hreports : keywordViolations policy rules (.number a) k =
      (breachOf (rules.bound? k) broken breach).map violation)
    (hat : rules.at? k = some (.number limit)) :
    (validate policy (.object rules) (.number a)).about k =
      if broken limit then [violation (breach limit)] else [] := by
  have hlimit : rules.bound? k = some limit := bind_number?_eq_some.mpr hat
  rw [Verdict.about, violations_number, filter_ownViolations hopen, hreports, hlimit, breachOf, breachIf]
  split
  · rfl
  · rfl

end Reports

/-- **Bounds on integers are exact** over the whole range of 64-bit integers, with and without a sign:
each of the four keywords is reported, once, exactly if the integer is on the wrong side of the bound. What
else the schema asks plays no part, nor what the validator has judged before. -/
theorem integer_bounds_exact (policy : FormatPolicy) (calls : List (Value × Value)) {rules : Rules}
    {n m : Int} (low : -2 ^ 63 ≤ n) (high : n < 2 ^ 64) (low' : -2 ^ 63 ≤ m) (high' : m < 2 ^ 64)
    (hgate : rules.GateOpen (.number (.integer n low high))) :
    let a : Number := .integer n low high
    let b : Number := .integer m low' high'
    let verdict := ((Validator.after policy calls).validate (.object rules) (.number a)).1
    (rules.at? .minimum = some (.number b) →
      verdict.about .minimum = if n < m then [violation (.belowMinimum a b)] else []) ∧
    (rules.at? .maximum = some (.number b) →
      verdict.about .maximum = if n > m then [violation (.aboveMaximum a b)] else []) ∧
    (rules.at? .exclusiveMinimum = some (.number b) →
      verdict.about .exclusiveMinimum = if n ≤ m then [violation (.notAboveMinimum a b)] else []) ∧
    (rules.at? .exclusiveMaximum = some (.number b) →
      verdict.about .exclusiveMaximum = if n ≥ m then [violation (.notBelowMaximum a b)] else []) := by
  simp only [Validator.validate_after]
  have hopen : rules.opens (.number (.integer n low high)) = true := Rules.opens_iff.mpr hgate
  refine ⟨fun hat => ?_, fun hat => ?_, fun hat => ?_, fun hat => ?_⟩
  · rw [about_bound hopen rfl hat, beq_lt_integer]
    simp only [decide_eq_true_eq]
  · rw [about_bound hopen rfl hat, beq_gt_integer]
    simp only [decide_eq_true_eq, gt_iff_lt]
  · rw [about_bound hopen rfl hat, bne_gt_integer]
    simp only [decide_eq_true_eq]
  · rw [about_bound hopen rfl hat, bne_lt_integer]
    simp only [decide_eq_true_eq, ge_iff_le]

/-- A negative integer against the largest bound: no 64-bit view holds both. -/
theorem integer_bounds_exact_ends :
    let minusOne : Number := .integer (-1) (by decide) (by decide)
    let largest : Number := .integer (2 ^ 64 - 1) (by decide) (by decide)
    let rules : Rules := [("minimum", .number largest), ("exclusiveMaximum", .number largest)]
    let verdict := ((Validator.after ⟨.empty, false⟩ []).validate (.object rules) (.number minusOne)).1
    rules.GateOpen (.number minusOne) ∧
      verdict.about .minimum = [violation (.belowMinimum minusOne largest)] ∧
      verdict.about .exclusiveMaximum = [] := by
  intro minusOne largest rules verdict
  have hgate : rules.GateOpen (.number minusOne) := gateOpen_of_missing rfl
  obtain ⟨hminimum, -, -, hmaximum⟩ := integer_bounds_exact ⟨.empty, false⟩ []
    (n := -1) (m := 2 ^ 64 - 1) (by decide) (by decide) (by decide) (by decide) hgate
  have hbelow := (hminimum rfl).trans (if_pos (by decide))
  have hnone := (hmaximum rfl).trans (if_neg (by decide))
  exact ⟨hgate, hbelow, hnone⟩

end JsonSchema
