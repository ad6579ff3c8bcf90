import JsonSchema.Json.Fault
import JsonSchema.Text.Digits

/-!
# `JsonSchema.Json.Quoted` — the text between quotes

Reading undoes the escapes one character at a time; writing escapes the quote, the backslash and
the characters below U+0020, and nothing else.

## Contents
- **Reading.** `Quoted` (how far an escape has been read), `Quoted.step`.
- **Writing.** `escapeChar`, `quote`.
-/

namespace JsonSchema.Json

/-! ## Reading -/

/-- How far the escape at hand has been read. A `lead` is the first half of a surrogate pair. -/
inductive Quoted where
  /-- outside an escape -/
  | plain
  /-- after the backslash -/
  | escape
  /-- in the four bytes of a hexadecimal escape: bytes taken, their value if all are digits -/
  | hex (lead : Option Nat) (bytes : Nat) (value : Option Nat)
  /-- after the first half of a pair -/
  | pairBackslash (lead : Nat)
  /-- after the backslash of the second half -/
  | pairLetter (lead : Nat)

namespace Quoted

/-- What a character does inside quotes: it may complete a character of the text, close the
quotes, or be wrong at a number of bytes past its own start. -/
inductive Next where
  | more (state : Quoted)
  | char (c : Char)
  | closed
  | wrong (fault : Fault) (bytes : Nat)

/-- The character after a backslash, the hexadecimal escape aside. -/
def shortEscape? (c : Char) : Option Char :=
  match c with
  | '"' => some '"'
  | '\\' => some '\\'
  | '/' => some '/'
  | 'b' => some '\x08'
  | 'f' => some '\x0c'
  | 'n' => some '\n'
  | 'r' => some '\r'
  | 't' => some '\t'
  | _ => none

/-- A hexadecimal escape that is complete. Halves of surrogate pairs come in order or not at
all. -/
def unit (lead : Option Nat) (value : Nat) (bytes : Nat) : Next :=
  match lead with
  | none =>
    if 0xDC00 ≤ value ∧ value ≤ 0xDFFF then .wrong .loneSurrogate bytes
    else if 0xD800 ≤ value ∧ value ≤ 0xDBFF then .more (.pairBackslash value)
    else .char (Char.ofNat value)
  | some first =>
    if 0xDC00 ≤ value ∧ value ≤ 0xDFFF then
      .char (Char.ofNat ((first - 0xD800) * 0x400 + (value - 0xDC00) + 0x10000))
    else .wrong .loneSurrogate bytes

/-- One character inside quotes. -/
def step : Quoted → Char → Next
  | .plain, c =>
    if c = '"' then .closed
    else if c = '\\' then .more .escape
    else if c.toNat < 0x20 then .wrong .controlCharacter 1
    else .char c
  | .escape, c =>
    if c = 'u' then .more (.hex none 0 (some 0))
    else match shortEscape? c with
      | some d => .char d
      | none => .wrong .invalidEscape 1
  | .hex lead bytes value, c =>
    let value := do return (← value) * 16 + (← Text.digit? 16 c)
    if bytes + c.utf8Size < 4 then .more (.hex lead (bytes + c.utf8Size) value)
    else match value with
      | some n => unit lead n (4 - bytes)
      | none => .wrong .invalidEscape (4 - bytes)
  | .pairBackslash lead, c =>
    if c = '\\' then .more (.pairLetter lead) else .wrong .hexEscapeEnd 1
  | .pairLetter lead, c =>
    if c = 'u' then .more (.hex (some lead) 0 (some 0)) else .wrong .hexEscapeEnd 1

end Quoted

/-! ## Writing -/

/-- The hexadecimal digit of a number below sixteen. -/
def hexChar (n : Nat) : Char :=
  if n < 10 then Char.ofNat ('0'.toNat + n) else Char.ofNat ('a'.toNat + (n - 10))

/-- The written form of one character inside quotes. -/
def escapeChar (c : Char) : List Char :=
  if c = '"' then ['\\', '"']
  else if c = '\\' then ['\\', '\\']
  else if c = '\x08' then ['\\', 'b']
  else if c = '\x0c' then ['\\', 'f']
  else if c = '\n' then ['\\', 'n']
  else if c = '\r' then ['\\', 'r']
  else if c = '\t' then ['\\', 't']
  else if c.toNat < 0x20 then
    ['\\', 'u', '0', '0', hexChar (c.toNat / 16), hexChar (c.toNat % 16)]
  else [c]

/-- A text in quotes. -/
def quote (text : List Char) : List Char := '"' :: text.flatMap escapeChar ++ ['"']

end JsonSchema.Json
