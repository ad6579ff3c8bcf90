import JsonSchema.Text.Digits
import JsonSchema.Yaml.Text

/-!
# `JsonSchema.Yaml.Quoted` — scalars in quotes

Between single quotes a quote is written twice; between double quotes there are escapes, also for a
line break that is to leave no trace. Lines fold in both.

## Contents
- **Escapes.** `escaped?`, `hexLength?`, `character?`.
- **Scalars.** `Mode`, `State`, `scan`.
-/

namespace JsonSchema.Yaml.Quoted

/-! ## Escapes -/

/-- What a letter after a backslash stands for. -/
def escaped? : Char → Option Char
  | '0' => some '\x00'
  | 'a' => some '\x07'
  | 'b' => some '\x08'
  | 't' | '\t' => some '\t'
  | 'n' => some '\n'
  | 'v' => some '\x0b'
  | 'f' => some '\x0c'
  | 'r' => some '\r'
  | 'e' => some '\x1b'
  | ' ' => some ' '
  | '"' => some '"'
  | '/' => some '/'
  | '\\' => some '\\'
  | 'N' => some '\u0085'
  | '_' => some '\u00a0'
  | 'L' => some '\u2028'
  | 'P' => some '\u2029'
  | _ => none

/-- The number of hexadecimal digits that a letter after a backslash asks for. -/
def hexLength? : Char → Option Nat
  | 'x' => some 2
  | 'u' => some 4
  | 'U' => some 8
  | _ => none

/-! ## Scalars -/

/-- What the next character is part of. -/
inductive Mode where
  | text
  | escape
  | hex (left value : Nat)
  | secondQuote
  | lineBreak

/-- What has been read: text, last character first, and the gap after it. -/
structure State where
  text : List Char
  gap : Gap
  column : Nat
  mode : Mode

namespace State

/-- Count the gap as text. -/
def settle (s : State) : State := { s with text := s.gap.folded ++ s.text, gap := .none }

/-- Add a character to the text. -/
def push (s : State) (c : Char) : State :=
  let s := s.settle
  { s with text := c :: s.text, column := s.column + 1, mode := .text }

/-- Go on in a mode, one column further. -/
def enter (s : State) (mode : Mode) : State :=
  let s := s.settle
  { s with column := s.column + 1, mode }

/-- One blank or break. -/
def space (s : State) (c : Char) : State :=
  { s with gap := s.gap.add c, column := if isBreak c then 0 else s.column + 1 }

/-- One hexadecimal digit. -/
def hexDigit (s : State) (left value : Nat) (c : Char) : Option State :=
  match Text.digit? 16 c with
  | none => none
  | some d =>
    if left ≤ 1 then (Text.character? (value * 16 + d)).map s.push
    else some (s.enter (.hex (left - 1) (value * 16 + d)))

/-- The letter after a backslash. -/
def escapeLetter (s : State) (c : Char) : Option State :=
  match escaped? c with
  | some e => some (s.push e)
  | none => (hexLength? c).map fun n => s.enter (.hex n 0)

/-- A character that is no quote, outside of escapes. -/
def character (s : State) (double : Bool) (c : Char) (rest : List Char) : Option State :=
  if isBlank c || isBreak c then some (s.space c)
  else if s.gap.isOpen && s.column == 0 && isDocumentMark (c :: rest) then none
  else if double && c == '\\' then
    some (s.enter (if rest.head?.any isBreak then .lineBreak else .escape))
  else some (s.push c)

end State

/-- Read on to the closing quote; gives the text and what follows. -/
def scanFrom (double : Bool) (s : State) : List Char → Option (List Char × List Char)
  | [] => none
  | c :: rest =>
    match s.mode with
    | .hex left value => (s.hexDigit left value c).bind fun s => scanFrom double s rest
    | .escape => (s.escapeLetter c).bind fun s => scanFrom double s rest
    | .secondQuote => scanFrom double (s.push c) rest
    | .lineBreak => scanFrom double { s with gap := .escaped, column := 0, mode := .text } rest
    | .text =>
      if c = (if double then '"' else '\'') then
        if !double && rest.head? == some '\'' then scanFrom double (s.enter .secondQuote) rest
        else some (s.settle.text.reverse, rest)
      else (s.character double c rest).bind fun s => scanFrom double s rest

/-- Read the scalar whose opening quote stands before a text, at a column. -/
def scan (double : Bool) (column : Nat) (cs : List Char) : Option (List Char × List Char) :=
  scanFrom double ⟨[], .none, column + 1, .text⟩ cs

end JsonSchema.Yaml.Quoted
