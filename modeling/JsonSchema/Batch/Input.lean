import JsonSchema.Batch.Fault
import JsonSchema.Document.Basic
import JsonSchema.Files.FileSystem
import JsonSchema.Glob.Search

/-!
# `JsonSchema.Batch.Input` — where documents come from

The inputs of a batch are named by patterns. What all patterns match together is sorted by the text
of the path and holds no path twice; a pattern without signs stands for itself when it matches
nothing, so that a missing file is reported and not overlooked.

## Contents
- **Inputs.** `InputSource`, its `name`, and `InputSource.read`.
- **Patterns.** `isLiteral`, `pathsFor`, `union`.
- **Resolution.** `readPatterns`, `resolve`.
-/

namespace JsonSchema

variable {m : Type → Type} [Monad m]

/-! ## Inputs -/

/-- Where a document comes from. -/
inductive InputSource where
  | standardInput
  | file (path : String)
deriving DecidableEq

namespace InputSource

/-- How reports name an input. -/
def name : InputSource → String
  | .standardInput => "<stdin>"
  | .file path => path

/-- The format of an input: that of its name, and JSON for standard input. -/
def format : InputSource → DocumentFormat
  | .standardInput => .json
  | .file path => .ofPath path

/-- The text of an input. -/
def text (fs : FileSystem m) (standardInput : m (Except FileFault String)) :
    InputSource → m (Except FileFault String)
  | .standardInput => standardInput
  | .file path => fs.read path

/-- The document that a text holds, if there is a text. -/
def document (input : InputSource) : Except FileFault String → Except DocumentError Value
  | .error fault => .error (.unreadable fault)
  | .ok text => readDocument input.format text

end InputSource

/-! ## Patterns -/

/-- Whether a pattern has no signs. -/
def isLiteral (pattern : String) : Bool :=
  !pattern.toList.any fun c => c == '*' || c == '?' || c == '['

/-- The paths for a pattern that matches some paths. -/
def pathsFor (pattern : String) (found : List String) : List String :=
  if found.isEmpty && isLiteral pattern then [pattern] else found

/-- Texts in rising order, each once. -/
def union (texts : List String) : List String :=
  (texts.mergeSort fun a b => decide (a ≤ b)).eraseReps

/-! ## Resolution -/

/-- The patterns that texts write; fails at the first that writes none. -/
def readPatterns (texts : List String) : Except BatchError (List (String × Glob.Pattern)) :=
  texts.mapM fun text =>
    match Glob.Pattern.read text with
    | .ok p => .ok (text, p)
    | .error e => .error (.invalidPattern text e)

/-- The paths for a pattern: what it matches and is no directory, or its own text. -/
def pathsOf (fs : FileSystem m) (pattern : String × Glob.Pattern) : m (List String) := do
  let found ← (← pattern.2.matches fs).filterM fun path => return !(← fs.isDirectory path)
  return pathsFor pattern.1 found

/-- The inputs that paths make, if there are any. -/
def inputsOf (patterns paths : List String) : Except BatchError (List InputSource) :=
  match union paths with
  | [] => .error (.noInputs patterns)
  | path :: rest => .ok ((path :: rest).map .file)

/-- The inputs that patterns name. -/
def resolve (fs : FileSystem m) (patterns : List String) :
    m (Except BatchError (List InputSource)) := do
  match readPatterns patterns with
  | .error e => return .error e
  | .ok read => return inputsOf patterns (← read.mapM (pathsOf fs)).flatten

end JsonSchema
