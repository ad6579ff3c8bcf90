import JsonSchema.Batch.Run
import JsonSchema.Schema.PatternCache

/-!
# `JsonSchema.Batch.Judge` — the outcome for an input

All inputs of a batch are judged by one validator, which remembers the patterns it has compiled.

## Contents
- **Documents.** `Outcome.ofProblem`, `Outcome.ofVerdict`, `Validator.judge`.
- **Batches.** `Judging`, `judgeInput`, `judging`, `judgeAll`.
- **Schemas.** `loadSchema`.
-/

namespace JsonSchema

variable {m : Type → Type} [Monad m]

/-! ## Documents -/

/-- The outcome for an input without a document. -/
def Outcome.ofProblem (input : InputSource) (e : DocumentError) : Outcome :=
  ⟨input.name, none, some e.message⟩

/-- The outcome for an input whose document has been judged. -/
def Outcome.ofVerdict (input : InputSource) (v : Verdict) : Outcome := ⟨input.name, some v, none⟩

/-- The outcome for an input, and the validator after it. -/
def Validator.judge (v : Validator) (schema : Value) (input : InputSource) :
    Except DocumentError Value → Outcome × Validator
  | .error e => (.ofProblem input e, v)
  | .ok document =>
    let (verdict, v) := v.validate schema document
    (.ofVerdict input verdict, v)

/-! ## Batches -/

/-- A computation that carries a validator along. -/
abbrev Judging (m : Type → Type) := StateT Validator m

/-- Read an input and judge it. -/
def judgeInput (text : InputSource → m (Except FileFault String)) (schema : Value)
    (input : InputSource) : Judging m Outcome := fun v => do
  return v.judge schema input (input.document (← text input))

/-- A run that judges inputs by a schema. -/
def judging (text : InputSource → m (Except FileFault String)) (report : Nat → Nat → m Unit)
    (cancelled : m Bool) (schema : Value) : Run (Judging m) where
  judge := judgeInput text schema
  report := fun done total => StateT.lift (report done total)
  cancelled := StateT.lift cancelled

/-- Judge inputs with a new validator; several workers move as a schedule says. -/
def judgeAll (text : InputSource → m (Except FileFault String)) (report : Nat → Nat → m Unit)
    (cancelled : m Bool) (policy : FormatPolicy) (schema : Value) (jobs : Nat)
    (inputs : List InputSource) (schedule : List Turn := []) :
    m (Except BatchError (List Outcome)) :=
  ((judging text report cancelled schema).batch jobs inputs schedule).run' (.new policy)

/-! ## Schemas -/

/-- The schema in a file. -/
def loadSchema (fs : FileSystem m) (path : String) : m (Except SchemaError Value) := do
  match ← fs.read path with
  | .error fault => return .error ⟨path, .unreadable fault⟩
  | .ok text => return readSchema path text

end JsonSchema
