import JsonSchema.Json.Value
import JsonSchema.Json.Quoted

/-!
# `JsonSchema.Json.Printer` — values as text

## Contents
- **Compact.** `Value.compactChars`, `Value.compact`: no blank space at all.
- **Pretty.** `Value.prettyChars`, `Value.pretty`: one element or member a line, two spaces for
  each level, empty containers closed at once.
-/

namespace JsonSchema.Value

open Json (quote)

/-- The words and numbers, which are written the same way everywhere. -/
def scalarChars : Value → List Char
  | .null => "null".toList
  | .bool true => "true".toList
  | .bool false => "false".toList
  | .number n => (n.write .json).toList
  | .string s => quote s.toList
  | _ => []

/-! ## Compact -/

mutual

/-- The value without blank space. -/
def compactChars : Value → List Char
  | .array elements => '[' :: compactElements elements ++ [']']
  | .object members => '{' :: compactMembers members ++ ['}']
  | v => v.scalarChars

/-- Elements with commas between them. -/
def compactElements : List Value → List Char
  | [] => []
  | [v] => compactChars v
  | v :: rest => compactChars v ++ ',' :: compactElements rest

/-- Members with commas between them. -/
def compactMembers : Members → List Char
  | [] => []
  | [(name, v)] => quote name.toList ++ ':' :: compactChars v
  | (name, v) :: rest =>
    quote name.toList ++ ':' :: compactChars v ++ ',' :: compactMembers rest

end

/-- The value without blank space, as text. -/
def compact (v : Value) : String := String.ofList v.compactChars

/-! ## Pretty -/

/-- A new line at a level. -/
def newline (level : Nat) : List Char := '\n' :: List.replicate (2 * level) ' '

mutual

/-- The value over several lines, its own brackets standing at a level. -/
def prettyChars (level : Nat) : Value → List Char
  | .array [] => ['[', ']']
  | .array elements => '[' :: prettyElements (level + 1) elements ++ newline level ++ [']']
  | .object [] => ['{', '}']
  | .object members => '{' :: prettyMembers (level + 1) members ++ newline level ++ ['}']
  | v => v.scalarChars

/-- Elements, each on a line of its own. -/
def prettyElements (level : Nat) : List Value → List Char
  | [] => []
  | [v] => newline level ++ prettyChars level v
  | v :: rest => newline level ++ prettyChars level v ++ ',' :: prettyElements level rest

/-- Members, each on a line of its own. -/
def prettyMembers (level : Nat) : Members → List Char
  | [] => []
  | [(name, v)] =>
    newline level ++ quote name.toList ++ ':' :: ' ' :: prettyChars level v
  | (name, v) :: rest =>
    newline level ++ quote name.toList ++ ':' :: ' ' :: prettyChars level v ++
      ',' :: prettyMembers level rest

end

/-- The value over several lines, as text. -/
def pretty (v : Value) : String := String.ofList (v.prettyChars 0)

end JsonSchema.Value
