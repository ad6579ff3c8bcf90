import JsonSchema.Batch.Judge
import JsonSchema.Proofs.Schema.PatternCache

/-!
# `JsonSchema.Proofs.Batch.Watched` — runs seen from outside

From outside a run is what it tells of progress and how often it looks at its cancellation token. Files
stay as they are while it lasts. The token may be set by anyone and at any time, so what a look at it
shows is a function of all that has happened so far.

What one validator says of an input does not depend on the inputs it has judged before, so an input has
one outcome, whichever worker judges it and when.

## Contents
- **Outcomes.** `Outcome.settled`, and `Validator.judge_of_fit`: it is what a validator in use arrives at.
- **Traces.** `Trace`, `Watched`, `Watched.watch`, and the `numbers` that are told of progress.
- **Runs.** `Setting`, its `outcome` for an input, and its `run`.
-/

namespace JsonSchema

/-! ## Outcomes -/

/-- The outcome for an input that holds a document, or none. -/
def Outcome.settled (policy : FormatPolicy) (schema : Value) (input : InputSource) :
    Except DocumentError Value → Outcome
  | .error e => .ofProblem input e
  | .ok document => .ofVerdict input (validate policy schema document)

/-- A validator of a policy that remembers nothing wrong. -/
structure Validator.Fit (policy : FormatPolicy) (v : Validator) : Prop where
  policy_eq : v.policy = policy
  faithful : v.cache.Faithful

theorem Validator.fit_new (policy : FormatPolicy) : (Validator.new policy).Fit policy :=
  ⟨rfl, PatternCache.faithful_empty⟩

/-- **A fit validator arrives at the outcome that needs no validator**, and is fit afterwards. -/
theorem Validator.judge_of_fit {policy : FormatPolicy} {v : Validator} (hv : v.Fit policy) (schema : Value)
    (input : InputSource) (read : Except DocumentError Value) :
    (v.judge schema input read).1 = .settled policy schema input read ∧
      (v.judge schema input read).2.Fit policy := by
  cases read with
  | error e => exact ⟨rfl, hv⟩
  | ok document =>
      obtain ⟨hverdict, hpolicy, hfaithful⟩ := Validator.validate_of_faithful hv.faithful schema document
      rw [hv.policy_eq] at hverdict hpolicy
      exact ⟨congrArg (Outcome.ofVerdict input) hverdict, hpolicy, hfaithful⟩

/-! ## Traces -/

/-- What can be seen of a run: what it has told of progress, in the order of telling, and how often it has
looked at the token. -/
structure Trace where
  told : List (Nat × Nat)
  looks : Nat

/-- Computations that leave a trace. -/
abbrev Watched := StateM Trace

namespace Watched

/-- Tell how many inputs of how many are done. -/
def tell (done total : Nat) : Watched Unit :=
  modify fun t => { t with told := t.told ++ [(done, total)] }

/-- Look at a token. -/
def look (token : Trace → Bool) : Watched Bool :=
  fun t => (token t, { t with looks := t.looks + 1 })

/-- What a computation returns, and what it has told of progress by then. -/
def watch {α : Type} (x : Watched α) : α × List (Nat × Nat) :=
  let (result, trace) := x ⟨[], 0⟩
  (result, trace.told)

theorem watch_run' {α : Type} (x : Judging Watched α) (v : Validator) :
    watch (x.run' v) = ((x v ⟨[], 0⟩).1.1, (x v ⟨[], 0⟩).2.told) :=
  rfl

end Watched

/-- What is told of progress when inputs are counted one by one. -/
def numbers (done total : Nat) : List (Nat × Nat) := (List.range' 1 done).map fun k => (k, total)

theorem numbers_succ (done total : Nat) :
    numbers (done + 1) total = numbers done total ++ [(done + 1, total)] := by
  rw [numbers, numbers, List.range'_1_concat, List.map_append, Nat.add_comm 1 done]
  rfl

/-! ## Runs -/

/-- What a run is given: files that stay as they are, a token, and what validation needs. -/
structure Setting where
  contents : InputSource → Except FileFault String
  token : Trace → Bool
  policy : FormatPolicy
  schema : Value

namespace Setting

variable (σ : Setting)

/-- The outcome for an input. -/
def outcome (input : InputSource) : Outcome :=
  .settled σ.policy σ.schema input (input.document (σ.contents input))

/-- The run that judges inputs with the contents they have. -/
def run : Run (Judging Watched) :=
  judging (fun input => pure (σ.contents input)) Watched.tell (Watched.look σ.token) σ.schema

/-- A batch with a number of jobs. -/
def judgeAll (jobs : Nat) (inputs : List InputSource) : Watched (Except BatchError (List Outcome)) :=
  JsonSchema.judgeAll (fun input => pure (σ.contents input)) Watched.tell (Watched.look σ.token) σ.policy
    σ.schema jobs inputs

/-- Judging an input leaves no trace. -/
theorem run_judge {v : Validator} (hv : v.Fit σ.policy) (input : InputSource) (t : Trace) :
    ∃ v' : Validator, v'.Fit σ.policy ∧ σ.run.judge input v t = ((σ.outcome input, v'), t) := by
  obtain ⟨houtcome, hfit⟩ := v.judge_of_fit hv σ.schema input (input.document (σ.contents input))
  refine ⟨_, hfit, ?_⟩
  show (v.judge σ.schema input (input.document (σ.contents input)), t) = _
  rw [outcome, ← houtcome]

theorem run_cancelled (v : Validator) (t : Trace) :
    σ.run.cancelled v t = ((σ.token t, v), { t with looks := t.looks + 1 }) :=
  rfl

theorem run_report (done total : Nat) (v : Validator) (t : Trace) :
    σ.run.report done total v t = (((), v), { t with told := t.told ++ [(done, total)] }) :=
  rfl

end Setting

end JsonSchema
