import JsonSchema.Schema.Violation

/-!
# `JsonSchema.Batch.Outcome` — what became of one input

## Contents
- **Outcomes.** `Outcome`: a verdict, or the reason why there is none.
- **Summary.** `Outcome.succeeded`, `Outcome.violations`, `Outcome.count`, `allSucceeded`.
- **Laws.** `Outcome.Clean` and `succeeded_iff`; `length_violations`.
-/

namespace JsonSchema

/-- What became of one input. -/
structure Outcome where
  filename : String
  verdict : Option Verdict
  problem : Option String
deriving DecidableEq

namespace Outcome

/-- Whether the input could be read and is valid. -/
def succeeded (o : Outcome) : Bool := o.problem.isNone && o.verdict.any Verdict.valid

/-- The violations, none for an input without a verdict. -/
def violations (o : Outcome) : List Violation :=
  match o.verdict with
  | some v => v.violations
  | none => []

/-- The number of violations, which the verdict gives. -/
def count (o : Outcome) : Nat :=
  match o.verdict with
  | some v => v.count
  | none => 0

end Outcome

/-- Whether all inputs succeeded. -/
def allSucceeded (outcomes : List Outcome) : Bool := outcomes.all Outcome.succeeded

/-! ## Laws -/

namespace Outcome

variable {o : Outcome}

/-- There is no problem, and there is a verdict without violations. -/
def Clean (o : Outcome) : Prop :=
  o.problem = none ∧ ∃ verdict, o.verdict = some verdict ∧ verdict.violations = []

theorem succeeded_iff : o.succeeded = true ↔ o.Clean := by
  simp [succeeded, Clean, Verdict.valid, Option.any_eq_true]

/-- The violations are counted by the verdict. -/
theorem length_violations : o.violations.length = o.count := by
  unfold violations count
  cases o.verdict <;> rfl

end Outcome

end JsonSchema
