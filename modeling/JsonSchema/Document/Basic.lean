import JsonSchema.Document.Fault
import JsonSchema.Files.Path
import JsonSchema.Json.Reader
import JsonSchema.Yaml.Composition
import JsonSchema.Yaml.Conversion

/-!
# `JsonSchema.Document.Basic` — documents and schemas from text

## Contents
- **Formats.** `DocumentFormat`, `DocumentFormat.ofPath`.
- **Reading.** `readDocument`, `readSchema`.
-/

namespace JsonSchema

/-! ## Formats -/

/-- The formats of documents. -/
inductive DocumentFormat where
  | json | yaml
deriving DecidableEq

/-- The format that the name of a file tells: YAML by its extension in any case, else JSON. -/
def DocumentFormat.ofPath (path : String) : DocumentFormat :=
  match (Files.fileName? path).bind Files.extension? with
  | some ext =>
    let ext := String.ofList (ext.map Char.toLower)
    if ext = "yaml" ∨ ext = "yml" then .yaml else .json
  | none => .json

/-! ## Reading -/

/-- The document that a text holds. -/
def readDocument (format : DocumentFormat) (text : String) : Except DocumentError Value :=
  match format with
  | .json => (Json.read text).mapError .json
  | .yaml =>
    match Yaml.Tree.read? text with
    | none => .error .yaml
    | some tree => tree.toValue.mapError .conversion

/-- The schema that the text of a file holds. -/
def readSchema (path text : String) : Except SchemaError Value :=
  match Json.read text with
  | .error e => .error ⟨path, .json e⟩
  | .ok (.object members) => .ok (.object members)
  | .ok v => .error ⟨path, .notAnObject v.kind⟩

end JsonSchema
