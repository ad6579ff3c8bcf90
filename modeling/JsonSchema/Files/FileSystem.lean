import JsonSchema.Document.Fault

/-!
# `JsonSchema.Files.FileSystem` — the ways to look at files

## Contents
- **Interface.** `FileSystem`: what a program asks of the files around it, over any monad.
- **Text.** `textOf`: bytes as text.
-/

namespace JsonSchema

/-- What a program asks of the files around it. -/
structure FileSystem (m : Type → Type) where
  /-- The text of a file. -/
  read : String → m (Except FileFault String)
  /-- Whether a path leads to anything. -/
  leads : String → m Bool
  /-- Whether a path leads to a directory. -/
  isDirectory : String → m Bool
  /-- The names in a directory, none in what is no directory. -/
  names : String → m (List String)

/-- Bytes as text. -/
def textOf (bytes : ByteArray) : Except FileFault String :=
  match String.fromUTF8? bytes with
  | some text => .ok text
  | none => .error .notText

end JsonSchema
