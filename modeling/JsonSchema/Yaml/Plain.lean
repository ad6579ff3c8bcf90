import JsonSchema.Yaml.Text

/-!
# `JsonSchema.Yaml.Plain` — scalars without quotes

A plain scalar runs on over blanks and lines until an indicator, a comment, a document mark or a
line that is not indented enough. The blanks after it are passed over with it.
-/

namespace JsonSchema.Yaml.Plain

/-- A plain scalar: its text, what follows, and whether a line ended before that. -/
structure Scanned where
  text : List Char
  rest : List Char
  broken : Bool

/-- Where a plain scalar stands: inside brackets or not, and the column its lines have to reach. -/
structure Place where
  flow : Bool
  indent : Nat

/-- A character that has a meaning of its own inside brackets. -/
def isFlowIndicator (c : Char) : Bool := ",[]{}".toList.contains c

/-- Whether a colon inside brackets is neither part of a text nor the sign of a value. -/
def isStrayColon (p : Place) (c : Char) (rest : List Char) : Bool :=
  p.flow && c == ':' && rest.head?.any fun d => d == '?' || isFlowIndicator d

/-- Whether a scalar ends before a character that is no blank and no break. -/
def endsAt (p : Place) (column : Nat) (gap : Gap) (c : Char) (rest : List Char) : Bool :=
  (gap.isOpen &&
    ((!p.flow && column < p.indent) || c == '#' || (column == 0 && isDocumentMark (c :: rest)))) ||
  (c == ':' && endsWord rest) || (p.flow && isFlowIndicator c)

/-- Read on from a column, after a gap and a text that is held last character first. -/
def scanFrom (p : Place) (column : Nat) (gap : Gap) (text : List Char) :
    List Char → Option Scanned
  | [] => some ⟨text.reverse, [], gap.broken⟩
  | c :: rest =>
    if isBlank c then
      if gap.broken && column < p.indent && c == '\t' then none
      else scanFrom p (column + 1) (gap.add c) text rest
    else if isBreak c then scanFrom p 0 (gap.add c) text rest
    else if endsAt p column gap c rest then some ⟨text.reverse, c :: rest, gap.broken⟩
    else if isStrayColon p c rest then none
    else scanFrom p (column + 1) .none (c :: (gap.folded ++ text)) rest

/-- Read the scalar at the start of a text. -/
def scan (p : Place) (column : Nat) (cs : List Char) : Option Scanned :=
  scanFrom p column .none [] cs

end JsonSchema.Yaml.Plain
