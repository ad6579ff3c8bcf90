import JsonSchema.Report.Options
import JsonSchema.Text.Digits

/-!
# `JsonSchema.Cli.Arguments` — what a command line asks for

Arguments are read from left to right, and the first thing that is wrong or that asks for help
decides. Long options take their value after an equals sign or as the next argument, short ones
also without a space; short flags can be joined. After `--` nothing is an option.

## Contents
- **Options.** `Scope`, `Opt`: which commands know it, and whether it takes a value.
- **Settings.** `Settings`, `Stop`, `Settings.set`.
- **Arguments.** `Item`, `items`, `readArguments`.
- **Commands.** `Rendering`, `Command`, `Command.ofArguments`.
-/

namespace JsonSchema.Cli

open Report (OutputFormat AuditFormat)

/-! ## Options -/

/-- The commands by name, and the program itself before one is named. -/
inductive Scope where
  | program | validate | batch | check
deriving DecidableEq

/-- The options. -/
inductive Opt where
  | schema | strictFormat | progress | jobs | output | noColor | quiet
  | verbose | logJson | help | version
deriving DecidableEq

namespace Opt

/-- All options. -/
def all : List Opt :=
  [.schema, .strictFormat, .progress, .jobs, .output, .noColor, .quiet, .verbose, .logJson, .help,
    .version]

/-- The long name of an option. -/
def long : Opt → String
  | .schema => "schema"
  | .strictFormat => "strict-format"
  | .progress => "progress"
  | .jobs => "jobs"
  | .output => "output"
  | .noColor => "no-color"
  | .quiet => "quiet"
  | .verbose => "verbose"
  | .logJson => "log-json"
  | .help => "help"
  | .version => "version"

/-- The short name of an option, if it has one. -/
def short? : Opt → Option Char
  | .jobs => some 'j'
  | .quiet => some 'q'
  | .verbose => some 'v'
  | .help => some 'h'
  | .version => some 'V'
  | _ => none

/-- Whether an option takes a value. -/
def takesValue : Opt → Bool
  | .schema | .jobs | .output => true
  | _ => false

/-- Whether an option may be said more than once. -/
def isRepeatable (o : Opt) : Bool := o = .verbose

/-- Whether an option is known after the name of a command. -/
def isKnown (scope : Scope) : Opt → Bool
  | .verbose | .logJson | .help => true
  | .version => scope = .program
  | .schema | .strictFormat => scope = .validate ∨ scope = .batch
  | .progress | .jobs => scope = .batch
  | .output | .noColor | .quiet => scope ≠ .program

/-- The option with a long name. -/
def ofLong? (scope : Scope) (name : List Char) : Option Opt :=
  all.find? fun o => o.isKnown scope && o.long.toList == name

/-- The option with a short name. -/
def ofShort? (scope : Scope) (c : Char) : Option Opt :=
  all.find? fun o => o.isKnown scope && o.short? == some c

end Opt

/-! ## Settings -/

/-- Why reading stops before the end. -/
inductive Stop where
  | misuse | help | version
deriving DecidableEq

/-- What has been said after the name of a command. -/
structure Settings where
  said : List Opt
  names : List String
  schema : Option String
  jobs : Nat
  output : OutputFormat
deriving DecidableEq

namespace Settings

/-- Nothing has been said. -/
def none : Settings := ⟨[], [], .none, 1, .text⟩

/-- Whether an option has been said. -/
def has (s : Settings) (o : Opt) : Bool := s.said.contains o

/-- The form of a report by its name. -/
def outputFormat? (scope : Scope) (name : String) : Option OutputFormat :=
  if name = "text" then some .text
  else if name = "json" then some .json
  else if name = "csv" ∧ scope ≠ .check then some .csv
  else .none

/-- The natural that a text writes, if 64 bits hold it; a plus sign may stand before it. -/
def count? (text : String) : Option Nat := Text.natural? (2 ^ 64) text.toList

/-- The settings with the value of an option. -/
def setValue (scope : Scope) (s : Settings) (o : Opt) (value : String) : Option Settings :=
  match o with
  | .schema => if value.isEmpty then .none else some { s with schema := some value }
  | .jobs => (count? value).map fun jobs => { s with jobs }
  | .output => (outputFormat? scope value).map fun output => { s with output }
  | _ => some s

/-- The settings after an option. -/
def set (scope : Scope) (s : Settings) (o : Opt) (value : String) : Except Stop Settings :=
  if o = .help then .error .help
  else if o = .version then .error .version
  else if s.has o && !o.isRepeatable then .error .misuse
  else
    match s.setValue scope o value with
    | some s => .ok { s with said := o :: s.said }
    | .none => .error .misuse

/-- How many names may stand after a command. -/
def maxNames? : Scope → Option Nat
  | .program => some 0
  | .validate | .check => some 1
  | .batch => .none

/-- The settings after a name that is no option. The schema to check may not be empty. -/
def addName (scope : Scope) (s : Settings) (name : String) : Except Stop Settings :=
  if (maxNames? scope).any (· ≤ s.names.length) || (scope = .check && name.isEmpty) then
    .error .misuse
  else .ok { s with names := s.names ++ [name] }

end Settings

/-! ## Arguments -/

/-- Whether an argument is an option or a group of them; a lone hyphen is a name. -/
def isOption (arg : String) : Bool :=
  match arg.toList with
  | '-' :: _ :: _ => true
  | _ => false

/-- The name of a long option and the value after an equals sign. -/
def splitValue (cs : List Char) : List Char × Option (List Char) :=
  match cs.dropWhile (· != '=') with
  | [] => (cs, none)
  | _ :: value => (cs.takeWhile (· != '='), some value)

/-- An option, and the value that is written in the same argument. -/
structure Item where
  option : Opt
  value : Option String

/-- The options in a group of short ones. The first that takes a value takes the rest. -/
def shortItems (scope : Scope) : List Char → List (Except Stop Item)
  | [] => []
  | c :: rest =>
    match Opt.ofShort? scope c with
    | none => [.error .misuse]
    | some o =>
      if o.takesValue then
        match rest with
        | [] => [.ok ⟨o, none⟩]
        | '=' :: value => [.ok ⟨o, some (String.ofList value)⟩]
        | value => [.ok ⟨o, some (String.ofList value)⟩]
      else .ok ⟨o, none⟩ :: shortItems scope rest

/-- The option that a long argument is; one that takes no value may not have one. -/
def longItem (scope : Scope) (cs : List Char) : Except Stop Item :=
  let (name, value) := splitValue cs
  match Opt.ofLong? scope name with
  | none => .error .misuse
  | some o =>
    if value.isSome && !o.takesValue then .error .misuse
    else .ok ⟨o, value.map String.ofList⟩

/-- The options in an argument. -/
def items (scope : Scope) (arg : String) : List (Except Stop Item) :=
  match arg.toList with
  | '-' :: '-' :: name => [longItem scope name]
  | '-' :: group => shortItems scope group
  | _ => []

/-- Read options that have all the values they need; gives one that still waits for its value. -/
def setItems (scope : Scope) (s : Settings) :
    List (Except Stop Item) → Except Stop (Settings × Option Opt)
  | [] => .ok (s, none)
  | .error stop :: _ => .error stop
  | .ok ⟨o, value⟩ :: rest =>
    match value, o.takesValue with
    | none, true => .ok (s, some o)
    | value, _ =>
      match s.set scope o (value.getD "") with
      | .error stop => .error stop
      | .ok s => setItems scope s rest

/-- Read names. -/
def readNames (scope : Scope) (s : Settings) : List String → Except Stop Settings
  | [] => .ok s
  | name :: rest =>
    match s.addName scope name with
    | .error stop => .error stop
    | .ok s => readNames scope s rest

/-- Read the arguments after a command. -/
def readArguments (scope : Scope) (s : Settings) (args : List String) : Except Stop Settings :=
  match args with
  | [] => .ok s
  | "--" :: rest => readNames scope s rest
  | arg :: rest =>
    if isOption arg then
      match setItems scope s (items scope arg) with
      | .error stop => .error stop
      | .ok (s, none) => readArguments scope s rest
      | .ok (s, some o) =>
        match rest with
        | [] => .error .misuse
        | value :: rest =>
          if isOption value then .error .misuse
          else
            match s.set scope o value with
            | .error stop => .error stop
            | .ok s => readArguments scope s rest
    else
      match s.addName scope arg with
      | .error stop => .error stop
      | .ok s => readArguments scope s rest

/-! ## Commands -/

/-- How a report is asked for: its form, whether it may have colour, and whether it is wanted. -/
structure Rendering where
  output : OutputFormat
  noColor : Bool
  quiet : Bool
deriving DecidableEq

/-- What a command line can ask for. -/
inductive Command where
  | validate (file : Option String) (schema : String) (strict : Bool) (rendering : Rendering)
  | batch (patterns : List String) (schema : String) (strict progress : Bool) (jobs : Nat)
      (rendering : Rendering)
  | check (schema : String) (output : AuditFormat) (noColor quiet : Bool)
deriving DecidableEq

/-- What settings say about the report. -/
def Settings.rendering (s : Settings) : Rendering := ⟨s.output, s.has .noColor, s.has .quiet⟩

/-- The command that settings make, if nothing is missing. -/
def command? (scope : Scope) (s : Settings) : Option Command :=
  match scope, s.schema, s.names with
  | .validate, some schema, names =>
    some (.validate names.head? schema (s.has .strictFormat) s.rendering)
  | .batch, some schema, name :: names =>
    some (.batch (name :: names) schema (s.has .strictFormat) (s.has .progress) s.jobs s.rendering)
  | .check, _, [name] =>
    some (.check name (if s.output = .json then .json else .text) (s.has .noColor) (s.has .quiet))
  | _, _, _ => none

/-- The command with a name. -/
def scopeOf? (name : String) : Option Scope :=
  if name = "validate" then some .validate
  else if name = "batch" then some .batch
  else if name = "check" then some .check
  else none

/-- Whether arguments name nothing, or one thing that there is help on. -/
def isHelpTopic : List String → Bool
  | [] => true
  | [name] => name = "help" || (scopeOf? name).isSome
  | _ => false

/-- Read a command's name and its arguments. The name `help` asks for help. -/
def readCommand (name : String) (args : List String) : Except Stop Command :=
  match scopeOf? name with
  | none => .error (if name = "help" && isHelpTopic args then .help else .misuse)
  | some scope =>
    match readArguments scope .none args with
    | .error stop => .error stop
    | .ok s =>
      match command? scope s with
      | some c => .ok c
      | none => .error .misuse

/-- Read a whole command line: options of the program, then a command. -/
def readCommandLine (s : Settings) : List String → Except Stop Command
  | [] => .error .misuse
  | arg :: rest =>
    if isOption arg then
      match setItems .program s (items .program arg) with
      | .error stop => .error stop
      | .ok (s, _) => readCommandLine s rest
    else readCommand arg rest

/-- The command that arguments ask for. -/
def Command.ofArguments (args : List String) : Except Stop Command := readCommandLine .none args

end JsonSchema.Cli
