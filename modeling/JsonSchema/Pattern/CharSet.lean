import JsonSchema.Unicode.Named
import JsonSchema.Unicode.Folding

/-!
# `JsonSchema.Pattern.CharSet` — sets of characters

## Contents
- **Sets.** `CharSet`, built from ranges and properties by the set operations, and
  `CharSet.contains`.
- **Common sets.** `digits`, `word`, `blank`, the ASCII classes by name.
- **Weight.** `CharSet.weight`: how much room a set takes in a compiled pattern.
-/

namespace JsonSchema.Pattern

/-- A set of characters. -/
inductive CharSet where
  /-- no character -/
  | empty
  /-- the code points between two, both included -/
  | range (low high : Nat)
  /-- a property -/
  | property (codes : Unicode.CodeSet)
  | union (a b : CharSet)
  | inter (a b : CharSet)
  | diff (a b : CharSet)
  | symmDiff (a b : CharSet)
  | compl (a : CharSet)
  /-- all that differ from a member in case alone -/
  | folded (a : CharSet)

namespace CharSet

/-- Whether the set holds a code point. -/
def contains : CharSet → Nat → Bool
  | .empty, _ => false
  | .range low high, n => low ≤ n && n ≤ high
  | .property codes, n => codes.contains n
  | .union a b, n => a.contains n || b.contains n
  | .inter a b, n => a.contains n && b.contains n
  | .diff a b, n => a.contains n && !b.contains n
  | .symmDiff a b, n => a.contains n != b.contains n
  | .compl a, n => !a.contains n
  | .folded a, n => (Unicode.Folding.alike n).any fun m => a.contains m

/-- The set of one character. -/
def single (c : Char) : CharSet := .range c.toNat c.toNat

/-- The characters between two. -/
def between (low high : Char) : CharSet := .range low.toNat high.toNat

/-- The union of several sets. -/
def unions : List CharSet → CharSet
  | [] => .empty
  | s :: rest => .union s (unions rest)

/-- The set, closed under change of case when asked. -/
def foldIf (insensitive : Bool) (s : CharSet) : CharSet := if insensitive then .folded s else s

/-- The set or its complement. -/
def complIf (negated : Bool) (s : CharSet) : CharSet := if negated then .compl s else s

/-! ## Common sets -/

/-- A set from tables of code points. -/
def ofTables (tables : List Unicode.Ranges) : CharSet := .property ⟨tables, false⟩

/-- Decimal digits of all scripts. -/
def digits : CharSet := ofTables [Unicode.Category.decimalNumber]

/-- Word characters of all scripts. -/
def word : CharSet :=
  ofTables [Unicode.Property.alphabetic, Unicode.Category.nonspacingMark,
    Unicode.Category.spacingMark, Unicode.Category.enclosingMark, Unicode.Category.decimalNumber,
    Unicode.Category.connectorPunctuation, Unicode.Property.joinControl]

/-- White space. -/
def blank : CharSet := ofTables [Unicode.Property.whiteSpace]

/-- Hexadecimal digits. -/
def hexDigits : CharSet := unions [between '0' '9', between 'a' 'f', between 'A' 'F']

/-- The ASCII class of a name. -/
def ascii? (name : String) : Option CharSet :=
  match name with
  | "alnum" => some (unions [between '0' '9', between 'A' 'Z', between 'a' 'z'])
  | "alpha" => some (unions [between 'A' 'Z', between 'a' 'z'])
  | "ascii" => some (.range 0 0x7F)
  | "blank" => some (unions [single '\t', single ' '])
  | "cntrl" => some (unions [.range 0 0x1F, .range 0x7F 0x7F])
  | "digit" => some (between '0' '9')
  | "graph" => some (between '!' '~')
  | "lower" => some (between 'a' 'z')
  | "print" => some (between ' ' '~')
  | "punct" => some (unions [between '!' '/', between ':' '@', .range 0x5B 0x60, .range 0x7B 0x7E])
  | "space" => some (unions [.range 0x09 0x0D, single ' '])
  | "upper" => some (between 'A' 'Z')
  | "word" => some (unions [between '0' '9', between 'A' 'Z', single '_', between 'a' 'z'])
  | "xdigit" => some hexDigits
  | _ => none

/-! ## Weight -/

/-- About how many ranges of code points a set has. -/
def rangeCount : CharSet → Nat
  | .empty => 0
  | .range _ _ => 1
  | .property codes => (codes.tables.map List.length).sum + 1
  | .union a b | .inter a b | .diff a b | .symmDiff a b => a.rangeCount + b.rangeCount
  | .compl a | .folded a => a.rangeCount + 1

/-- Whether a set is seen to hold nothing but ASCII. -/
def isAscii : CharSet → Bool
  | .empty => true
  | .range _ high => high < 0x80
  | .union a b | .symmDiff a b => a.isAscii && b.isAscii
  | .inter a b => a.isAscii || b.isAscii
  | .diff a _ | .folded a => a.isAscii
  | .property _ | .compl _ => false

/-- The room that a set takes: a step for each byte of a lone character, a step with its ranges for
ASCII, and for other sets the steps that tell their UTF-8 forms apart, by estimate. -/
def weight : CharSet → Nat
  | .range low high =>
    if low = high then 32 * (Char.ofNat low).utf8Size else if high < 0x80 then 40 else 500
  | s => if s.isAscii then 64 + 8 * s.rangeCount else 450 + 26 * s.rangeCount

end CharSet

end JsonSchema.Pattern
