/-!
# `JsonSchema.Json.Fault` — why and where a text is not JSON

## Contents
- **Places.** `Position`: lines count from one, columns count bytes of UTF-8 and are zero just
  after a line break.
- **Causes.** `Fault` with one wording each, and `ReadError`, a fault at a place.
-/

namespace JsonSchema.Json

/-- A place in a text. -/
structure Position where
  line : Nat
  column : Nat
deriving DecidableEq

namespace Position

/-- The start of a text. -/
def start : Position := ⟨1, 0⟩

/-- The place just past a character. -/
def past (p : Position) (c : Char) : Position :=
  if c = '\n' then ⟨p.line + 1, 0⟩ else ⟨p.line, p.column + c.utf8Size⟩

/-- The place some bytes into a character; zero bytes is the character's own place. -/
def into (p : Position) (c : Char) (bytes : Nat) : Position :=
  if bytes = 0 then p
  else if c = '\n' then ⟨p.line + 1, 0⟩
  else ⟨p.line, p.column + bytes⟩

end Position

/-- The ways in which a text fails to be JSON. -/
inductive Fault where
  | endInValue
  | endInList
  | endInObject
  | endInString
  | expectedValue
  | expectedIdent
  | expectedColon
  | expectedListEnd
  | expectedObjectEnd
  | trailingComma
  | trailingCharacters
  | keyNotString
  | invalidNumber
  | numberOutOfRange
  | invalidEscape
  | hexEscapeEnd
  | loneSurrogate
  | controlCharacter
  | recursionLimit
deriving DecidableEq

/-- The wording of a fault. -/
def Fault.message : Fault → String
  | .endInValue => "EOF while parsing a value"
  | .endInList => "EOF while parsing a list"
  | .endInObject => "EOF while parsing an object"
  | .endInString => "EOF while parsing a string"
  | .expectedValue => "expected value"
  | .expectedIdent => "expected ident"
  | .expectedColon => "expected `:`"
  | .expectedListEnd => "expected `,` or `]`"
  | .expectedObjectEnd => "expected `,` or `\x7d`"
  | .trailingComma => "trailing comma"
  | .trailingCharacters => "trailing characters"
  | .keyNotString => "key must be a string"
  | .invalidNumber => "invalid number"
  | .numberOutOfRange => "number out of range"
  | .invalidEscape => "invalid escape"
  | .hexEscapeEnd => "unexpected end of hex escape"
  | .loneSurrogate => "lone leading surrogate in hex escape"
  | .controlCharacter => "control character (\\u0000-\\u001F) found while parsing a string"
  | .recursionLimit => "recursion limit exceeded"

/-- A fault and the place where it shows. -/
structure ReadError where
  fault : Fault
  place : Position
deriving DecidableEq

/-- The wording of an error, with its place. -/
def ReadError.message (e : ReadError) : String :=
  e.fault.message ++ " at line " ++ toString e.place.line ++
    " column " ++ toString e.place.column

end JsonSchema.Json
