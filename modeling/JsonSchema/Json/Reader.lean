import JsonSchema.Json.Numeral
import JsonSchema.Json.Quoted

/-!
# `JsonSchema.Json.Reader` — text to value, one character at a time

Reading is a machine: `step` takes one character and the machine's state, `atEnd` says what the
state means where the text stops. A run over `a ++ b` is therefore a run over `a` followed by a
run over `b`, and a fault is placed at the character that causes it.

## Contents
- **States.** `Frame` (a container that waits for a value), `State`, `State.complete`.
- **Machine.** `State.step`, `State.atEnd`, `run`.
- **Reading.** `read`.
-/

namespace JsonSchema.Json

/-- Containers may nest this deep; one more is a fault. -/
def maxDepth : Nat := 127

/-- Blank space between tokens. -/
def isBlank (c : Char) : Bool := c == ' ' || c == '\n' || c == '\t' || c == '\r'

/-! ## States -/

/-- A container inside which a value is being read; elements are held last first. -/
inductive Frame where
  | array (elements : List Value)
  | object (members : Members) (name : String)

/-- What has been read so far. Every state but the last holds the containers around it,
innermost first. -/
inductive State where
  /-- a value is due -/
  | due (stack : List Frame)
  /-- just inside an array -/
  | arrayOpen (stack : List Frame)
  /-- after a comma in an array -/
  | arrayNext (stack : List Frame) (elements : List Value)
  /-- after an element -/
  | arrayRest (stack : List Frame) (elements : List Value)
  /-- just inside an object -/
  | objectOpen (stack : List Frame)
  /-- after a comma in an object -/
  | objectNext (stack : List Frame) (members : Members)
  /-- after a member -/
  | objectRest (stack : List Frame) (members : Members)
  /-- inside a member's name; its characters are held last first -/
  | inName (stack : List Frame) (members : Members) (chars : List Char) (quoted : Quoted)
  /-- after a member's name -/
  | dueColon (stack : List Frame) (members : Members) (name : String)
  /-- inside a string value -/
  | inString (stack : List Frame) (chars : List Char) (quoted : Quoted)
  /-- inside a number -/
  | inNumber (stack : List Frame) (negative : Bool) (numeral : Numeral)
  /-- inside one of the three words -/
  | inWord (stack : List Frame) (rest : List Char) (value : Value)
  /-- the whole document has been read -/
  | finished (value : Value)

namespace State

/-- The state after a value inside these containers. -/
def complete : List Frame → Value → State
  | [], v => .finished v
  | .array elements :: stack, v => .arrayRest stack (v :: elements)
  | .object members name :: stack, v => .objectRest stack (members.insert name v)

/-! ## Machine -/

/-- A fault, and how many bytes past the start of the character at hand it shows. -/
abbrev Outcome := Except (Fault × Nat) State

/-- A fault that shows just past the character at hand. -/
def wrong (fault : Fault) : Outcome := .error (fault, 1)

/-- The first character of a value. -/
def opened (stack : List Frame) (c : Char) : Outcome :=
  if c = 'n' then .ok (.inWord stack ['u', 'l', 'l'] .null)
  else if c = 't' then .ok (.inWord stack ['r', 'u', 'e'] (.bool true))
  else if c = 'f' then .ok (.inWord stack ['a', 'l', 's', 'e'] (.bool false))
  else if c = '"' then .ok (.inString stack [] .plain)
  else if c = '-' then .ok (.inNumber stack true .start)
  else if c = '[' then
    if stack.length < maxDepth then .ok (.arrayOpen stack) else wrong .recursionLimit
  else if c = '{' then
    if stack.length < maxDepth then .ok (.objectOpen stack) else wrong .recursionLimit
  else match Numeral.start.step c with
    | .more n => .ok (.inNumber stack false n)
    | _ => wrong .expectedValue

/-- One character after a complete value, or around the tokens of a container. -/
def between : State → Char → Outcome
  | .arrayRest stack elements, c =>
    if isBlank c then .ok (.arrayRest stack elements)
    else if c = ',' then .ok (.arrayNext stack elements)
    else if c = ']' then .ok (complete stack (.array elements.reverse))
    else wrong .expectedListEnd
  | .objectRest stack members, c =>
    if isBlank c then .ok (.objectRest stack members)
    else if c = ',' then .ok (.objectNext stack members)
    else if c = '}' then .ok (complete stack (.object members))
    else wrong .expectedObjectEnd
  | .finished v, c =>
    if isBlank c then .ok (.finished v) else wrong .trailingCharacters
  | state, _ => .ok state

/-- The state after a number; one out of range shows where the number ends. -/
def closeNumber (stack : List Frame) (negative : Bool) (n : Numeral) : Outcome :=
  match n.number? negative with
  | some number => .ok (complete stack (.number number))
  | none => .error (.numberOutOfRange, 0)

/-- The text of characters held last first. -/
def textOf (chars : List Char) : String := String.ofList chars.reverse

/-- One character of the document. -/
def step : State → Char → Outcome
  | .due stack, c => if isBlank c then .ok (.due stack) else opened stack c
  | .arrayOpen stack, c =>
    if isBlank c then .ok (.arrayOpen stack)
    else if c = ']' then .ok (complete stack (.array []))
    else opened (.array [] :: stack) c
  | .arrayNext stack elements, c =>
    if isBlank c then .ok (.arrayNext stack elements)
    else if c = ']' then wrong .trailingComma
    else opened (.array elements :: stack) c
  | .objectOpen stack, c =>
    if isBlank c then .ok (.objectOpen stack)
    else if c = '}' then .ok (complete stack (.object []))
    else if c = '"' then .ok (.inName stack [] [] .plain)
    else wrong .keyNotString
  | .objectNext stack members, c =>
    if isBlank c then .ok (.objectNext stack members)
    else if c = '}' then wrong .trailingComma
    else if c = '"' then .ok (.inName stack members [] .plain)
    else wrong .keyNotString
  | .inName stack members chars quoted, c =>
    match quoted.step c with
    | .more q => .ok (.inName stack members chars q)
    | .char d => .ok (.inName stack members (d :: chars) .plain)
    | .closed => .ok (.dueColon stack members (textOf chars))
    | .wrong fault bytes => .error (fault, bytes)
  | .dueColon stack members name, c =>
    if isBlank c then .ok (.dueColon stack members name)
    else if c = ':' then .ok (.due (.object members name :: stack))
    else wrong .expectedColon
  | .inString stack chars quoted, c =>
    match quoted.step c with
    | .more q => .ok (.inString stack chars q)
    | .char d => .ok (.inString stack (d :: chars) .plain)
    | .closed => .ok (complete stack (.string (textOf chars)))
    | .wrong fault bytes => .error (fault, bytes)
  | .inNumber stack negative n, c =>
    match n.step c with
    | .more n => .ok (.inNumber stack negative n)
    | .finished => do between (← closeNumber stack negative n) c
    | .wrong fault => wrong fault
  | .inWord stack rest v, c =>
    match rest with
    | [] => between (complete stack v) c
    | [d] => if c = d then .ok (complete stack v) else wrong .expectedIdent
    | d :: rest => if c = d then .ok (.inWord stack rest v) else wrong .expectedIdent
  | state, c => between state c

/-- What the end of the text means. -/
def atEnd : State → Except Fault Value
  | .due _ | .arrayNext _ _ | .objectNext _ _ | .inWord _ _ _ => .error .endInValue
  | .arrayOpen _ | .arrayRest _ _ => .error .endInList
  | .objectOpen _ | .objectRest _ _ | .dueColon _ _ _ => .error .endInObject
  | .inName _ _ _ _ | .inString _ _ _ => .error .endInString
  | .inNumber stack negative n =>
    if n.complete then
      match closeNumber stack negative n with
      | .ok (.finished v) => .ok v
      | .ok (.arrayRest _ _) => .error .endInList
      | .ok _ => .error .endInObject
      | .error (fault, _) => .error fault
    else .error .endInValue
  | .finished v => .ok v

end State

/-- Read on from a state, the next character standing at a place. -/
def run : State → Position → List Char → Except ReadError Value
  | state, place, [] =>
    match state.atEnd with
    | .ok v => .ok v
    | .error fault => .error ⟨fault, place⟩
  | state, place, c :: rest =>
    match state.step c with
    | .ok next => run next (place.past c) rest
    | .error (fault, bytes) => .error ⟨fault, place.into c bytes⟩

/-! ## Reading -/

/-- The value that a text holds. -/
def read (text : String) : Except ReadError Value :=
  run (.due []) Position.start text.toList

end JsonSchema.Json
