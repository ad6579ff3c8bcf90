import JsonSchema.Yaml.Text

/-!
# `JsonSchema.Yaml.Block` — scalars as indented lines

After `|` lines stand as they are, after `>` they fold. The first line that is not empty sets the
indentation, unless the header does, and the header says what becomes of the breaks at the end.

## Contents
- **Header.** `Chomping`, `Header`, `header?`.
- **Lines.** `State`, `scan`.
-/

namespace JsonSchema.Yaml.Block

/-! ## Header -/

/-- What becomes of the breaks at the end. -/
inductive Chomping where
  | strip | clip | keep
deriving DecidableEq

/-- What the line of the indicator says. -/
structure Header where
  chomping : Chomping
  /-- The indentation that is asked for, counted from that of the parent. -/
  increment : Option Nat

/-- The sign for chomping. -/
def chomping? (c : Char) : Option Chomping :=
  if c = '+' then some .keep else if c = '-' then some .strip else none

/-- The digit for an indentation. -/
def increment? (c : Char) : Option Nat :=
  if '1' ≤ c ∧ c ≤ '9' then some (c.toNat - '0'.toNat) else none

/-- The signs after the indicator, in either order, and what follows them. -/
def signs : List Char → Header × List Char
  | [] => (⟨.clip, none⟩, [])
  | c :: rest =>
    match chomping? c, increment? c with
    | some chomping, _ =>
      match rest with
      | d :: rest' =>
        match increment? d with
        | some n => (⟨chomping, some n⟩, rest')
        | none => (⟨chomping, none⟩, rest)
      | [] => (⟨chomping, none⟩, [])
    | none, some n =>
      match rest with
      | d :: rest' =>
        match chomping? d with
        | some chomping => (⟨chomping, some n⟩, rest')
        | none => (⟨.clip, some n⟩, rest)
      | [] => (⟨.clip, some n⟩, [])
    | none, none => (⟨.clip, none⟩, c :: rest)

/-- What is left of a line after blanks and a comment, if nothing else stands there. -/
def lineEnd? (cs : List Char) : Option (List Char) :=
  match cs.dropWhile isBlank with
  | [] => some []
  | '#' :: rest => some ((rest.dropWhile fun c => !isBreak c).drop 1)
  | c :: rest => if isBreak c then some rest else none

/-- The header after an indicator, and the lines after it. -/
def header? (cs : List Char) : Option (Header × List Char) :=
  let (header, rest) := signs cs
  (lineEnd? rest).map fun rest => (header, rest)

/-! ## Lines -/

/-- What has been read of the lines. -/
structure State where
  /-- The text, last character first. -/
  text : List Char
  /-- The break at the end of the last line that is not empty. -/
  lastBreak : Option Char
  /-- The breaks of the empty lines after it, last first. -/
  emptyLines : List Char
  /-- Whether that line began with a blank, so that it does not fold. -/
  blankStart : Bool
  /-- The indentation, once it is known. -/
  indent : Option Nat
  column : Nat
  /-- The furthest column that indentation has reached. -/
  furthest : Nat
  /-- Whether a line's own text is being read. -/
  inLine : Bool

namespace State

/-- Before the first line. -/
def start (indent : Option Nat) : State := ⟨[], none, [], false, indent, 0, 0, false⟩

/-- Whether a column belongs to the indentation. -/
def inIndent (s : State) : Bool :=
  match s.indent with
  | none => true
  | some n => s.column < n

/-- The indentation, which at the latest the first line with text settles. -/
def settledIndent (s : State) (parent : Nat) : Nat :=
  s.indent.getD (max (max s.furthest s.column) (max parent 1))

/-- The text with the breaks before a line that starts with a character. -/
def joined (s : State) (literal : Bool) (c : Char) : List Char :=
  if !literal && s.lastBreak == some '\n' && !s.blankStart && !isBlank c then
    if s.emptyLines.isEmpty then ' ' :: s.text else s.emptyLines ++ s.text
  else s.emptyLines ++ (s.lastBreak.toList ++ s.text)

/-- The first character of a line. -/
def beginLine (s : State) (literal : Bool) (c : Char) : State :=
  { s with
    text := c :: s.joined literal c, lastBreak := none, emptyLines := []
    blankStart := isBlank c, column := s.column + 1, inLine := true }

/-- The text when all lines are read. -/
def finish (s : State) (chomping : Chomping) : List Char :=
  let kept := if chomping = .strip then s.text else s.lastBreak.toList ++ s.text
  (if chomping = .keep then s.emptyLines ++ kept else kept).reverse

end State

/-- Read the lines; gives the text and what follows. `parent` is the least column of a line. -/
def scanFrom (literal : Bool) (chomping : Chomping) (parent : Nat) (s : State) :
    List Char → Option (List Char × List Char)
  | [] => some (s.finish chomping, [])
  | c :: rest =>
    if s.inLine then
      if isBreak c then
        scanFrom literal chomping parent
          { s with lastBreak := some c, column := 0, inLine := false } rest
      else
        scanFrom literal chomping parent { s with text := c :: s.text, column := s.column + 1 } rest
    else if s.inIndent && c == ' ' then
      scanFrom literal chomping parent
        { s with column := s.column + 1, furthest := max s.furthest (s.column + 1) } rest
    else if s.inIndent && c == '\t' then none
    else if isBreak c then
      scanFrom literal chomping parent { s with emptyLines := c :: s.emptyLines, column := 0 } rest
    else
      let s := { s with indent := some (s.settledIndent parent) }
      if s.indent = some s.column then
        scanFrom literal chomping parent (s.beginLine literal c) rest
      else some (s.finish chomping, c :: rest)

/-- Read the scalar after an indicator. `parent` is the indentation around it, if any. -/
def scan (literal : Bool) (parent : Option Nat) (cs : List Char) :
    Option (List Char × List Char) :=
  (header? cs).bind fun (header, lines) =>
    let indent := header.increment.map fun n => parent.getD 0 + n
    let least :=
      match parent with
      | some n => n + 1
      | none => 0
    scanFrom literal header.chomping least (.start indent) lines

end JsonSchema.Yaml.Block
