import JsonSchema.Batch.Input
import JsonSchema.Batch.Outcome

/-!
# `JsonSchema.Batch.Run` — judging one input after the other, or several at a time

A run judges every input once and reports each as it is done. It may be cancelled: then nothing
more is begun, and there are no outcomes, not even those that were ready.

## Contents
- **Runs.** `Run`: how an input is judged, what is told of progress, and when to stop.
- **In order.** `Run.inOrder`.
- **Pools.** `Worker`, `Pool`, its moves in the turns of a schedule, and `Run.inPool`.
- **Batches.** `Run.batch`.
-/

namespace JsonSchema

variable {m : Type → Type} [Monad m]

/-! ## Runs -/

/-- What a run is made of. -/
structure Run (m : Type → Type) where
  /-- The outcome for an input. -/
  judge : InputSource → m Outcome
  /-- Tell how many inputs of how many are done. -/
  report : Nat → Nat → m Unit
  /-- Whether the run has been cancelled. -/
  cancelled : m Bool

namespace Run

/-- The outcomes of a run, unless it has been cancelled by its end. -/
def conclude (r : Run m) (outcomes : List Outcome) :
    m (Except BatchError (List Outcome)) := do
  if ← r.cancelled then return .error .cancelled else return .ok outcomes

/-! ## In order -/

/-- Judge inputs in order when some of a total are done. -/
def judgeFrom (r : Run m) (total : Nat) : Nat → List InputSource → m (List Outcome)
  | _, [] => return []
  | done, input :: rest => do
    if ← r.cancelled then return []
    let outcome ← r.judge input
    r.report (done + 1) total
    return outcome :: (← r.judgeFrom total (done + 1) rest)

/-- Judge inputs in order. -/
def inOrder (r : Run m) (inputs : List InputSource) : m (Except BatchError (List Outcome)) := do
  r.conclude (← r.judgeFrom inputs.length 0 inputs)

end Run

/-! ## Pools -/

/-- What a worker is at: nothing, an input with its place, an outcome yet to be counted, or an outcome
whose number is yet to be told. -/
inductive Worker where
  | idle
  | judging (place : Nat) (input : InputSource)
  | counting (place : Nat) (outcome : Outcome)
  | reporting (place : Nat) (outcome : Outcome) (done : Nat)

/-- Workers that share the inputs that are left and the number of outcomes that have been counted, and
the outcomes so far with their places. -/
structure Pool where
  waiting : List (Nat × InputSource)
  workers : List Worker
  outcomes : List (Nat × Outcome)
  done : Nat

/-- One turn of a schedule: which worker moves, and which of the inputs that are left it takes if it is
idle, as a number that is read modulo theirs. -/
structure Turn where
  worker : Nat
  choice : Nat

namespace Pool

/-- Before the first move. -/
def start (workers : Nat) (inputs : List InputSource) : Pool :=
  ⟨(List.range inputs.length).zip inputs, List.replicate workers .idle, [], 0⟩

/-- A pool in which a worker has come to something else. -/
def withWorker (p : Pool) (worker : Nat) (w : Worker) : Pool :=
  { p with workers := p.workers.set worker w }

/-- An idle worker takes an input that is left, and lets it go if the run has been cancelled. -/
def take (r : Run m) (p : Pool) (turn : Turn) : m Pool := do
  let index := turn.choice % p.waiting.length
  match p.waiting[index]? with
  | none => return p
  | some (place, input) =>
    let p := { p with waiting := p.waiting.eraseIdx index }
    if ← r.cancelled then return p else return p.withWorker turn.worker (.judging place input)

/-- The next move of a worker. -/
def move (r : Run m) (total : Nat) (p : Pool) (turn : Turn) : m Pool := do
  match p.workers[turn.worker]? with
  | none => return p
  | some .idle => p.take r turn
  | some (.judging place input) =>
    let outcome ← r.judge input
    return p.withWorker turn.worker (.counting place outcome)
  | some (.counting place outcome) =>
    let done := p.done + 1
    return { p.withWorker turn.worker (.reporting place outcome done) with done }
  | some (.reporting place outcome done) =>
    r.report done total
    return { p.withWorker turn.worker .idle with outcomes := (place, outcome) :: p.outcomes }

/-- The moves that a schedule says. -/
def after (r : Run m) (total : Nat) (p : Pool) (schedule : List Turn) : m Pool :=
  schedule.foldlM (fun p turn => p.move r total turn) p

/-- The outcomes in the order of their inputs. -/
def inPlace (p : Pool) : List Outcome :=
  (p.outcomes.mergeSort fun a b => decide (a.1 ≤ b.1)).map Prod.snd

end Pool

namespace Run

/-- One turn for each of a number of workers. -/
def round (workers : Nat) : List Turn := (List.range workers).map fun worker => ⟨worker, 0⟩

/-- Rounds in which workers are sure to be done with a number of inputs. -/
def rounds (workers inputs : Nat) : List Turn := (List.replicate (4 * inputs) (round workers)).flatten

/-- Judge inputs with workers that move as a schedule says, and in rounds when it has come to its end, so
that no input is left. -/
def inPool (r : Run m) (workers : Nat) (schedule : List Turn) (inputs : List InputSource) :
    m (Except BatchError (List Outcome)) := do
  let p ← (Pool.start workers inputs).after r inputs.length (schedule ++ rounds workers inputs.length)
  r.conclude p.inPlace

/-! ## Batches -/

/-- Judge inputs with a number of jobs: with one or none in order, else with workers, of which there are
no more than inputs, and which move as a schedule says before they go in rounds. -/
def batch (r : Run m) (jobs : Nat) (inputs : List InputSource) (schedule : List Turn := []) :
    m (Except BatchError (List Outcome)) :=
  let workers := max 1 (min jobs inputs.length)
  if jobs ≤ 1 then r.inOrder inputs else r.inPool workers schedule inputs

end Run

end JsonSchema
