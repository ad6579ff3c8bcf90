import JsonSchema.Json.Fault
import JsonSchema.Json.Value

/-!
# `JsonSchema.Document.Fault` — why there is no document or no schema

## Contents
- **Files.** `FileFault`: why a file has no text.
- **Documents.** `ConversionFault`, `DocumentError`.
- **Schemas.** `SchemaFault`, `SchemaError`, its `message` and the `cause?` below it.
-/

namespace JsonSchema

/-! ## Files -/

/-- Why a file has no text. -/
inductive FileFault where
  | notFound | isDirectory | notDirectory | notText
deriving DecidableEq

/-- The wording of a fault of a file. -/
def FileFault.message : FileFault → String
  | .notFound => "No such file or directory (os error 2)"
  | .isDirectory => "Is a directory (os error 21)"
  | .notDirectory => "Not a directory (os error 20)"
  | .notText => "stream did not contain valid UTF-8"

/-! ## Documents -/

/-- Why a YAML tree has no JSON form: a number that is not finite, with its text, or a key that is
no scalar. -/
inductive ConversionFault where
  | numberNotFinite (written : String)
  | keyNotScalar
deriving DecidableEq

/-- The wording of a conversion fault. -/
def ConversionFault.message : ConversionFault → String
  | .numberNotFinite written => "number " ++ written ++ " has no JSON representation"
  | .keyNotScalar => "mapping keys must be scalars to become JSON member names"

/-- Why an input is not a document. -/
inductive DocumentError where
  | unreadable (fault : FileFault)
  | json (error : Json.ReadError)
  | yaml
  | conversion (fault : ConversionFault)
deriving DecidableEq

/-- The wording of an error in a document. -/
def DocumentError.message : DocumentError → String
  | .unreadable fault => "cannot read input: " ++ fault.message
  | .json error => "invalid JSON: " ++ error.message
  | .yaml => "invalid YAML: <reason>"
  | .conversion fault => "YAML-to-JSON conversion failed: " ++ fault.message

/-! ## Schemas -/

/-- Why a file is not a schema. -/
inductive SchemaFault where
  | unreadable (fault : FileFault)
  | json (error : Json.ReadError)
  | notAnObject (found : Kind)
deriving DecidableEq

/-- A fault of the schema at a path. -/
structure SchemaError where
  path : String
  fault : SchemaFault
deriving DecidableEq

namespace SchemaError

/-- The wording of an error in a schema. -/
def message (e : SchemaError) : String :=
  match e.fault with
  | .unreadable fault => "cannot read schema '" ++ e.path ++ "': " ++ fault.message
  | .json error => "schema '" ++ e.path ++ "' is not valid JSON: " ++ error.message
  | .notAnObject found =>
    "schema '" ++ e.path ++ "' must be a JSON object, found " ++ found.name

/-- The wording of the cause below an error, if it has one. -/
def cause? (e : SchemaError) : Option String :=
  match e.fault with
  | .unreadable fault => some fault.message
  | .json error => some error.message
  | .notAnObject _ => none

end SchemaError

end JsonSchema
