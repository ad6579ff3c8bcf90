import JsonSchema.Yaml.Block
import JsonSchema.Yaml.Plain
import JsonSchema.Yaml.Properties
import JsonSchema.Yaml.Quoted

/-!
# `JsonSchema.Yaml.Tokens` — from text to tokens

The text is walked character by character. Where a token begins, it is read ahead as a whole and
its characters are then passed over. What starts on a line may turn out to be a key when a colon
follows; until then it is a *candidate*, and the token for the key is put before it afterwards.

## Contents
- **State.** `Candidate`, `Scanner`, and how it moves: `advance`, `emit`.
- **Blocks.** `closeTo`, `openBlock`.
- **Keys.** `dropCandidate`, `saveCandidate`, `dropStale`.
- **Tokens.** One function for each indicator, and `begin`.
- **Text.** `step`, `finish`, `tokens?`.
-/

namespace JsonSchema.Yaml

/-! ## State -/

/-- Something that may turn out to be a key: the number of its first token and where it stands. -/
structure Candidate where
  required : Bool
  tokenNumber : Nat
  line : Nat
  column : Nat
  offset : Nat

/-- The state between characters. -/
structure Scanner where
  line : Nat
  column : Nat
  offset : Nat
  /-- The characters to pass over because their token has been read. -/
  toPass : Nat
  inComment : Bool
  /-- Whether a key may begin here. -/
  keyAllowed : Bool
  candidate : Option Candidate
  /-- The candidates outside of each open bracket, the innermost first. -/
  outerCandidates : List (Option Candidate)
  /-- The column of the innermost block. -/
  indent : Option Nat
  /-- The columns of the blocks around it, the innermost first. -/
  outerIndents : List (Option Nat)
  /-- The tokens so far, the last first. -/
  tokens : List Token

namespace Scanner

/-- Before the first character. -/
def start : Scanner := ⟨0, 0, 0, 0, false, true, none, [], none, [], []⟩

/-- Whether a bracket is open. -/
def inFlow (s : Scanner) : Bool := !s.outerCandidates.isEmpty

/-- Go past a character. -/
def advance (s : Scanner) (c : Char) : Scanner :=
  if isBreak c then { s with line := s.line + 1, column := 0, offset := s.offset + 1 }
  else { s with column := s.column + 1, offset := s.offset + 1 }

/-- Go past a character of a token that has been read. -/
def pass (s : Scanner) (c : Char) : Scanner := { s.advance c with toPass := s.toPass - 1 }

/-- Add a token. -/
def emit (s : Scanner) (t : Token) : Scanner := { s with tokens := t :: s.tokens }

/-- Put a token before the one with a number. -/
def emitAt (s : Scanner) (tokenNumber : Nat) (t : Token) : Scanner :=
  { s with tokens := s.tokens.insertIdx (s.tokens.length - tokenNumber) t }

/-- Add a token of one character. -/
def emitSign (s : Scanner) (t : Token) : Scanner := { s.emit t with toPass := 1 }

/-- Add a token that has been read from a text of which a rest is left. -/
def emitRead (s : Scanner) (t : Token) (text rest : List Char) : Scanner :=
  { s.emit t with toPass := text.length - rest.length }

/-! ## Blocks -/

/-- Whether a block's column lies beyond another column; no column lies before all. -/
def isBeyond (indent : Option Nat) (column : Option Nat) : Bool :=
  match indent, column with
  | none, _ => false
  | some _, none => true
  | some i, some c => c < i

/-- The number of blocks beyond a column, and the blocks that are left. -/
def closeTo (column : Option Nat) :
    Option Nat → List (Option Nat) → Nat × Option Nat × List (Option Nat)
  | indent, [] => (0, indent, [])
  | indent, outer :: rest =>
    if isBeyond indent column then
      let (count, indent, rest) := closeTo column outer rest
      (count + 1, indent, rest)
    else (0, indent, outer :: rest)

/-- Close the blocks beyond a column. Inside brackets there are none to close. -/
def closeBlocks (s : Scanner) (column : Option Nat) : Scanner :=
  if s.inFlow then s
  else
    let (count, indent, outerIndents) := closeTo column s.indent s.outerIndents
    { s with indent, outerIndents, tokens := List.replicate count .blockEnd ++ s.tokens }

/-- Open a block at a column beyond the innermost one, before the token with a number. -/
def openBlock (s : Scanner) (column tokenNumber : Nat) (t : Token) : Scanner :=
  if s.inFlow then s
  else if isBeyond (some column) s.indent then
    { s.emitAt tokenNumber t with
      indent := some column, outerIndents := s.indent :: s.outerIndents }
  else s

/-- Open a block at the current place. -/
def openBlockHere (s : Scanner) (t : Token) : Scanner := s.openBlock s.column s.tokens.length t

/-! ## Keys -/

/-- Forget the candidate, unless it had to be a key. -/
def dropCandidate (s : Scanner) : Option Scanner :=
  if s.candidate.any (·.required) then none else some { s with candidate := none }

/-- What begins here may be a key, and has to be one where the lines of its block begin. -/
def saveCandidate (s : Scanner) : Option Scanner :=
  if s.keyAllowed then
    s.dropCandidate.map fun s =>
      { s with
        candidate := some
          { required := !s.inFlow && s.indent == some s.column
            tokenNumber := s.tokens.length
            line := s.line, column := s.column, offset := s.offset } }
  else some s

/-- How far behind its first character the colon of a key may stand. -/
def keyLimit : Nat := 1024

/-- Whether a candidate can no longer be a key: its line has ended, or it is too long. -/
def isStale (s : Scanner) (k : Candidate) : Bool :=
  k.line < s.line || k.offset + keyLimit < s.offset

/-- A candidate that is still one; fails where it had to be a key. -/
def keepFresh (s : Scanner) : Option Candidate → Option (Option Candidate)
  | none => some none
  | some k => if s.isStale k then if k.required then none else some none else some (some k)

/-- Forget all stale candidates. -/
def dropStale (s : Scanner) : Option Scanner :=
  match s.keepFresh s.candidate, s.outerCandidates.mapM s.keepFresh with
  | some candidate, some outerCandidates => some { s with candidate, outerCandidates }
  | _, _ => none

/-! ## Tokens -/

/-- A directive ends all blocks. -/
def directive (s : Scanner) (rest : List Char) : Option Scanner :=
  (s.closeBlocks none).dropCandidate.bind fun s =>
    (directive? rest).map fun (t, after) =>
      let s := { s with keyAllowed := false }.emitRead t rest after
      { s with toPass := s.toPass + 1 }

/-- The mark of a document ends all blocks. -/
def documentMark (s : Scanner) (t : Token) : Option Scanner :=
  (s.closeBlocks none).dropCandidate.map fun s =>
    { s.emit t with keyAllowed := false, toPass := 3 }

/-- An opening bracket. -/
def openFlow (s : Scanner) (t : Token) : Option Scanner :=
  s.saveCandidate.map fun s =>
    { s.emitSign t with
      candidate := none, outerCandidates := s.candidate :: s.outerCandidates, keyAllowed := true }

/-- A closing bracket. -/
def closeFlow (s : Scanner) (t : Token) : Option Scanner :=
  s.dropCandidate.map fun s =>
    let s := { s.emitSign t with keyAllowed := false }
    match s.outerCandidates with
    | [] => s
    | candidate :: outerCandidates => { s with candidate, outerCandidates }

/-- A comma between brackets. -/
def flowEntry (s : Scanner) : Option Scanner :=
  s.dropCandidate.map fun s => { s.emitSign .flowEntry with keyAllowed := true }

/-- A hyphen before an entry of a block. -/
def blockEntry (s : Scanner) : Option Scanner :=
  if !s.inFlow && !s.keyAllowed then none
  else
    (s.openBlockHere .blockSequenceStart).dropCandidate.map fun s =>
      { s.emitSign .blockEntry with keyAllowed := true }

/-- A question mark before a key. -/
def explicitKey (s : Scanner) : Option Scanner :=
  if !s.inFlow && !s.keyAllowed then none
  else
    (s.openBlockHere .blockMappingStart).dropCandidate.map fun s =>
      { s.emitSign .key with keyAllowed := !s.inFlow }

/-- A colon before a value: it makes the candidate a key. -/
def value (s : Scanner) : Option Scanner :=
  match s.candidate with
  | some k =>
    let s := (s.emitAt k.tokenNumber .key).openBlock k.column k.tokenNumber .blockMappingStart
    some { s.emitSign .value with candidate := none, keyAllowed := false }
  | none =>
    if !s.inFlow && !s.keyAllowed then none
    else some { (s.openBlockHere .blockMappingStart).emitSign .value with keyAllowed := !s.inFlow }

/-- A token that may begin a key and is followed by none, given as it is read after its
indicator. -/
def readToken (s : Scanner) (rest : List Char) (read : Option (Token × List Char)) :
    Option Scanner :=
  s.saveCandidate.bind fun s =>
    read.map fun (t, after) =>
      let s := { s with keyAllowed := false }.emitRead t rest after
      { s with toPass := s.toPass + 1 }

/-- A name with the token that it makes. -/
def readName (make : String → Token) (rest : List Char) : Option (Token × List Char) :=
  (name? rest).map fun (name, after) => (make name, after)

/-- A scalar in quotes. -/
def readQuoted (s : Scanner) (double : Bool) (rest : List Char) : Option (Token × List Char) :=
  (Quoted.scan double s.column rest).map fun (text, after) =>
    (.scalar (String.ofList text) false, after)

/-- A scalar of lines, after which a line begins. -/
def blockScalar (s : Scanner) (literal : Bool) (rest : List Char) : Option Scanner :=
  s.dropCandidate.bind fun s =>
    (Block.scan literal s.indent rest).map fun (text, after) =>
      let s := { s with keyAllowed := true }.emitRead (.scalar (String.ofList text) false) rest after
      { s with toPass := s.toPass + 1 }

/-- A scalar without quotes. -/
def plain (s : Scanner) (text : List Char) : Option Scanner :=
  s.saveCandidate.bind fun s =>
    let indent :=
      match s.indent with
      | some n => n + 1
      | none => 0
    (Plain.scan ⟨s.inFlow, indent⟩ s.column text).map fun scanned =>
      { s.emitRead (.scalar (String.ofList scanned.text) true) text scanned.rest with
        keyAllowed := scanned.broken }

/-- Characters that begin no token. -/
def beginsNothing (c : Char) : Bool := isBlank c || "%@`".toList.contains c

/-- The token at a place. -/
def begin (s : Scanner) (c : Char) (rest : List Char) : Option Scanner :=
  if s.column = 0 ∧ c = '%' then s.directive rest
  else if s.column = 0 ∧ isDocumentMark (c :: rest) then
    s.documentMark (if c = '-' then .documentStart else .documentEnd)
  else
    match c with
    | '[' => s.openFlow .flowSequenceStart
    | '{' => s.openFlow .flowMappingStart
    | ']' => s.closeFlow .flowSequenceEnd
    | '}' => s.closeFlow .flowMappingEnd
    | ',' => s.flowEntry
    | '*' => s.readToken rest (readName .alias rest)
    | '&' => s.readToken rest (readName .anchor rest)
    | '!' => s.readToken rest (tag? s.inFlow rest)
    | '\'' => s.readToken rest (s.readQuoted false rest)
    | '"' => s.readToken rest (s.readQuoted true rest)
    | '|' => if s.inFlow then none else s.blockScalar true rest
    | '>' => if s.inFlow then none else s.blockScalar false rest
    | '-' => if endsWord rest then s.blockEntry else s.plain (c :: rest)
    | '?' => if s.inFlow || endsWord rest then s.explicitKey else s.plain (c :: rest)
    | ':' => if s.inFlow || endsWord rest then s.value else s.plain (c :: rest)
    | c => if beginsNothing c then none else s.plain (c :: rest)

/-! ## Text -/

/-- Whether a character between tokens is blank. A tab is not, where a key may begin. -/
def isSpace (s : Scanner) (c : Char) : Bool :=
  c == ' ' || (c == '\t' && (s.inFlow || !s.keyAllowed)) || (c == byteOrderMark && s.column == 0)

/-- A character that no token has claimed. -/
def between (s : Scanner) (c : Char) (rest : List Char) : Option Scanner :=
  if isBreak c then
    some { s.advance c with inComment := false, keyAllowed := s.keyAllowed || !s.inFlow }
  else if s.inComment || s.isSpace c then some (s.advance c)
  else if c = '#' then some { s.advance c with inComment := true }
  else
    s.dropStale.bind fun s =>
      ((s.closeBlocks (some s.column)).begin c rest).map fun s => s.pass c

/-- One character. -/
def step (s : Scanner) (c : Char) (rest : List Char) : Option Scanner :=
  if 0 < s.toPass then some (s.pass c) else s.between c rest

/-- The end of the text ends all blocks. -/
def finish (s : Scanner) : Option (List Token) :=
  s.dropStale.bind fun s =>
    (s.closeBlocks none).dropCandidate.map fun s => (s.emit .streamEnd).tokens.reverse

/-- Walk over a text. -/
def run (s : Scanner) : List Char → Option (List Token)
  | [] => s.finish
  | c :: rest => (s.step c rest).bind fun s => s.run rest

end Scanner

/-- The tokens of a text whose line breaks are unified. -/
def tokens? (text : List Char) : Option (List Token) := Scanner.start.run text

end JsonSchema.Yaml
