import JsonSchema.Batch.Judge
import JsonSchema.Cli.Arguments
import JsonSchema.Format.Builtin
import JsonSchema.Schema.Audit

/-!
# `JsonSchema.Cli.Program` — what commands do

The program is written over any monad, with what it needs of its surroundings as a record. Its exit
code is zero only if the schema is usable and every input is valid. A command is worked on while the
program watches for an interrupt, and whichever comes first decides how the program ends.

## Contents
- **Ends.** `Ending`, and its `exitCode`.
- **Surroundings.** `Surroundings`.
- **Commands.** `Surroundings.validate`, `batch` and `check`, `Command.run`.
- **Dispatch.** `Command.work`, which writes the report, and `dispatch`, which an interrupt may cut short.
- **Runs.** `run`: what arguments ask for.
-/

namespace JsonSchema.Cli

open Report (Options)

variable {m : Type → Type} [Monad m]

/-! ## Ends -/

/-- How a command ends: with a report and whether all was well, or because it was cancelled, or
because of an error, given by its wording. -/
inductive Ending where
  | reported (text : Option String) (allWell : Bool)
  | cancelled
  | failed (message : String)
deriving DecidableEq

namespace Ending

/-- The exit code for an interrupt, and for a batch that has been cancelled. -/
def interruptedCode : Nat := 130

/-- The exit code for an ending. -/
def exitCode : Ending → Nat
  | .reported _ allWell => if allWell then 0 else 1
  | .cancelled => interruptedCode
  | .failed _ => 1

/-- The text of an error and of the cause below it. -/
def ofSchemaError (e : SchemaError) : Ending :=
  .failed (": ".intercalate (e.message :: e.cause?.toList))

/-- The ending of a batch. -/
def ofBatch (options : Options) : Except BatchError (List Outcome) → Ending
  | .ok outcomes => .reported (options.render? outcomes) (allSucceeded outcomes)
  | .error .cancelled => .cancelled
  | .error e => .failed e.message

end Ending

/-! ## Surroundings -/

/-- What the program needs of its surroundings. -/
structure Surroundings (m : Type → Type) [Monad m] where
  files : FileSystem m
  standardInput : m (Except FileFault String)
  write : String → m Unit
  complain : String → m Unit
  /-- Whether the terminal shows colours. -/
  color : Bool
  /-- Look at the token, whether it is set. -/
  cancelled : m Bool
  /-- Set the token. -/
  cancel : m Unit := pure ()
  /-- How several workers take turns, before they go in rounds. -/
  schedule : List Turn := []
  /-- Work, and how it ends, or nothing if an interrupt comes first. By itself no interrupt comes. -/
  race : m Ending → m (Option Ending) := fun work => some <$> work

/-! ## Commands -/

/-- How a report is written on this terminal. -/
def Rendering.options (r : Rendering) (color : Bool) : Options :=
  ⟨r.output, color && !r.noColor, r.quiet⟩

/-- The formats to check. -/
def policy (strict : Bool) : FormatPolicy := ⟨.builtin, strict⟩

/-- The input that a file name stands for: a lone hyphen and no name are standard input. -/
def inputOf (file : Option String) : InputSource :=
  match file with
  | none | some "-" => .standardInput
  | some path => .file path

/-- Judge inputs by a schema. -/
def Surroundings.judge (around : Surroundings m) (schema : Value) (strict progress : Bool) (jobs : Nat)
    (inputs : List InputSource) : m (Except BatchError (List Outcome)) :=
  let report (done total : Nat) : m Unit :=
    if progress then
      around.complain ("[" ++ toString done ++ "/" ++ toString total ++ "]\n")
    else pure ()
  judgeAll (InputSource.text around.files around.standardInput) report around.cancelled
    (policy strict) schema jobs inputs around.schedule

/-- Judge one input. -/
def Surroundings.validate (around : Surroundings m) (file : Option String) (schema : String) (strict : Bool)
    (rendering : Rendering) : m Ending := do
  match ← loadSchema around.files schema with
  | .error e => return .ofSchemaError e
  | .ok schema =>
    let outcomes ← around.judge schema strict false 1 [inputOf file]
    return .ofBatch (rendering.options around.color) outcomes

/-- Judge the inputs that patterns name. -/
def Surroundings.batch (around : Surroundings m) (patterns : List String) (schema : String)
    (strict progress : Bool) (jobs : Nat) (rendering : Rendering) : m Ending := do
  match ← loadSchema around.files schema with
  | .error e => return .ofSchemaError e
  | .ok schema =>
    match ← resolve around.files patterns with
    | .error e => return .ofBatch (rendering.options around.color) (.error e)
    | .ok inputs =>
      let outcomes ← around.judge schema strict (progress && !rendering.quiet) jobs inputs
      return .ofBatch (rendering.options around.color) outcomes

/-- Audit a schema. -/
def Surroundings.check (around : Surroundings m) (schema : String) (output : Report.AuditFormat)
    (noColor quiet : Bool) : m Ending := do
  match ← loadSchema around.files schema with
  | .error e => return .ofSchemaError e
  | .ok value =>
    let warnings := audit .builtin value
    let color := around.color && !noColor
    return .reported (if quiet then none else some (Report.renderAudit output color schema warnings))
      true

/-- Do what a command says. -/
def Command.run (around : Surroundings m) : Command → m Ending
  | .validate file schema strict rendering => around.validate file schema strict rendering
  | .batch patterns schema strict progress jobs rendering =>
    around.batch patterns schema strict progress jobs rendering
  | .check schema output noColor quiet => around.check schema output noColor quiet

/-! ## Dispatch -/

/-- Write the report of an ending, if there is one. -/
def Ending.deliver (around : Surroundings m) : Ending → m Unit
  | .reported (some text) _ => around.write text
  | .reported none _ | .cancelled | .failed _ => pure ()

/-- The work on a command: what the command says, and its report. -/
def Command.work (around : Surroundings m) (c : Command) : m Ending := do
  let e ← c.run around
  e.deliver around
  return e

/-- Say why work has failed, and give the exit code for its ending. -/
def Ending.conclude (around : Surroundings m) (e : Ending) : m Nat := do
  match e with
  | .failed message => around.complain ("error: " ++ message ++ "\n")
  | .reported .. | .cancelled => pure ()
  return e.exitCode

/-- Have the work on a command done, and watch for an interrupt meanwhile. An interrupt sets the token and
ends the program at once, whatever the work is at. -/
def dispatch (around : Surroundings m) (c : Command) : m Nat := do
  match ← around.race (c.work around) with
  | some e => e.conclude around
  | none =>
    around.cancel
    return Ending.interruptedCode

/-! ## Runs -/

/-- The name and version of the program. -/
def versionText : String := "jsv 0.1.0\n"

/-- How the program is used. -/
def usageText : String :=
  "Validate JSON and YAML documents against JSON Schemas

Usage: jsv [OPTIONS] <COMMAND>

Commands:
  validate [FILE] --schema <PATH> [--strict-format] [--output text|json|csv] [--no-color] [-q]
  batch <FILE_OR_GLOB>... --schema <PATH> [--strict-format] [--progress] [-j <N>]
        [--output text|json|csv] [--no-color] [-q]
  check <SCHEMA_FILE> [--output text|json] [--no-color] [-q]

Options:
  -v, --verbose   More log lines
      --log-json  Log lines as JSON
  -h, --help      Print help
  -V, --version   Print version
"

/-- Do what arguments ask for, and give the exit code. -/
def run (around : Surroundings m) (args : List String) : m Nat := do
  match Command.ofArguments args with
  | .ok command => dispatch around command
  | .error .version => around.write versionText; return 0
  | .error .help => around.write usageText; return 0
  | .error .misuse => around.complain usageText; return 2

end JsonSchema.Cli
