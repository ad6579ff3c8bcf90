/-!
# `JsonSchema.Yaml.Text` — the characters of YAML

## Contents
- **Classes.** `isBlank`, `isBreak`, `isWord`, `endsWord`, `isDocumentMark`.
- **Streams.** `isAdmissible`, `unifyBreaks`, `prepare?`.
- **Gaps.** `Gap`: blanks and line breaks inside a scalar, and what they fold to.
-/

namespace JsonSchema.Yaml

/-! ## Classes -/

/-- A space or a tab. -/
def isBlank (c : Char) : Bool := c == ' ' || c == '\t'

/-- A line break, once line breaks are unified. -/
def isBreak (c : Char) : Bool := c == '\n' || c == '\u2028' || c == '\u2029'

/-- A character of names. -/
def isWord (c : Char) : Bool := c.isAlphanum || c == '_' || c == '-'

/-- Whether a text begins with a blank or a break, or is at its end. -/
def endsWord : List Char → Bool
  | [] => true
  | c :: _ => isBlank c || isBreak c

/-- Whether a line begins with the mark that starts or ends a document. -/
def isDocumentMark : List Char → Bool
  | '-' :: '-' :: '-' :: rest | '.' :: '.' :: '.' :: rest => endsWord rest
  | _ => false

/-- The byte order mark, which may stand at the start of a line. -/
def byteOrderMark : Char := '\ufeff'

/-! ## Streams -/

/-- Whether a character may stand in a stream at all. -/
def isAdmissible (c : Char) : Bool :=
  let n := c.toNat
  n == 0x09 || n == 0x0A || n == 0x0D || (0x20 ≤ n && n ≤ 0x7E) || n == 0x85 ||
    (0xA0 ≤ n && n ≤ 0xFFFD) || 0x10000 ≤ n

/-- Line ends of one or two characters as line feeds. -/
def unifyBreaks : List Char → List Char
  | '\r' :: '\n' :: rest => '\n' :: unifyBreaks rest
  | '\r' :: rest => '\n' :: unifyBreaks rest
  | '\u0085' :: rest => '\n' :: unifyBreaks rest
  | c :: rest => c :: unifyBreaks rest
  | [] => []

/-- The characters of a stream with its line breaks unified. -/
def prepare? (text : String) : Option (List Char) :=
  let cs := text.toList
  if cs.all isAdmissible then some (unifyBreaks cs) else none

/-! ## Gaps -/

/-- Blanks and breaks between two parts of a scalar. Blanks next to a break do not count. -/
structure Gap where
  /-- The blanks, last first, as long as there is no break. -/
  blanks : List Char
  /-- The first break, unless it was escaped. -/
  first : Option Char
  /-- The breaks after the first, last first. -/
  others : List Char
  broken : Bool

namespace Gap

/-- Nothing between two parts. -/
def none : Gap := ⟨[], .none, [], false⟩

/-- A break that was escaped. -/
def escaped : Gap := ⟨[], .none, [], true⟩

/-- Whether there is anything. -/
def isOpen (g : Gap) : Bool := g.broken || !g.blanks.isEmpty

/-- One blank or break more. -/
def add (g : Gap) (c : Char) : Gap :=
  if isBreak c then
    if g.broken then { g with others := c :: g.others } else ⟨[], some c, [], true⟩
  else if g.broken then g
  else { g with blanks := c :: g.blanks }

/-- What a gap stands for, last character first: blanks stand for themselves, a single line feed
for a space, and of several the first one is dropped. -/
def folded (g : Gap) : List Char :=
  if !g.broken then g.blanks
  else if g.first = some '\n' then if g.others.isEmpty then [' '] else g.others
  else g.others ++ g.first.toList

end Gap

end JsonSchema.Yaml
