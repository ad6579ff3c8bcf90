import JsonSchema.Format.Punycode
import JsonSchema.Text.Split
import JsonSchema.Unicode.Category
import JsonSchema.Unicode.Direction
import JsonSchema.Unicode.Joining
import JsonSchema.Unicode.Property

/-!
# `JsonSchema.Format.Domain` — domain names of any script

A name is mapped character by character: letters lose their case and their width, some characters
vanish, others are refused. Labels that are written in Punycode have to stand for text that the
mapping leaves as it is. In a name with text from right to left each label has to keep to one
direction.

## Contents
- **Tables.** `dropped`, `refused`, `virama`.
- **Characters.** `isForbidden`, `mapChar?`.
- **Labels.** `isLabel`, `labelText?`.
- **Directions.** `keepsDirection`, `directionsFit`.
- **Names.** `domain?`: the mapped name, if it is one.
-/

namespace JsonSchema.Format.Domain

open Unicode

/-! ## Tables -/

/-- Characters that vanish. -/
def dropped : Ranges := Ranges.ofText
    "173 1 673 1 5307 3 1 1 2043 1 84 1 3 1 56731 16 239 1 48544 4 803932 240"

/-- Assigned characters that no name may have, alone or as what they stand for. -/
def refused : Ranges := Ranges.ofText
    "128 33 7 1 6 1 4 1 3 1 543 6 156 1 9 2 634 6 22 1 192 1 49 1 384 2 80 1 2172 2 1311 1 307 2
    88 1 1966 1 1 3 11 3 13 3 13 2 14 2 1 11 3 2 7 1 12 3 1 8 14 1 8 3 21 1 1 3 2 10 144 2 3 2
    897 20 1496 1 1403 12 4 1 154 2 199 1 605 1 4 1 16 1 51333 6 406 2 23 1 2 1 2 1 22 1 22 6 5
    1 2 2 8 1 4 2 2 1 1 2 4 1 1 1 1 1 1 1 1 1 1 1 1 1 1 1 132 1 1 1 9 1 10 1 1 1 1 3 26 4 29 1
    67 1 66 1 21 3 4289 1 15 1 9058 16 40243 8 8069 1 790272 1 30 96"

/-- Marks after which a joiner may stand. -/
def virama : Ranges := Ranges.ofText
    "2381 1 127 1 127 1 127 1 127 1 127 1 127 1 127 1 109 2 16 1 124 1 111 1 127 1 201 1 180 2
    1753 2 30 1 157 1 653 1 227 1 101 2 70 2 4491 1 31366 1 37 1 151 1 142 1 108 1 309 1 246 1
    24145 1 1542 1 41 1 14 1 57 1 121 2 139 1 116 1 180 1 98 1 244 1 127 1 252 1 127 1 118 1
    116 1 269 1 259 2 161 1 83 1 18 1 81 1 421 1 260 2 81 1 425 2"

/-! ## Characters -/

/-- ASCII characters that no name has. -/
def isForbidden (c : Char) : Bool :=
  c.toNat ≤ 0x20 || c.toNat == 0x7f || "#%/:<>?@[\\]^|".toList.contains c

/-- Whether a code point is assigned to a character, other than by private agreement. -/
def isAssigned (n : Nat) : Bool :=
  (Unicode.Category.assigned.any fun t => t.contains n) &&
    !Unicode.Category.privateUse.contains n && !Unicode.Category.surrogate.contains n

/-- Runs of numbers in other shapes: the first character, its number, and the length of the run. -/
def numberRuns : List (Nat × Nat × Nat) :=
  [(0xB2, 2, 2), (0xB9, 1, 1), (0x2070, 0, 1), (0x2074, 4, 6), (0x2080, 0, 10), (0x2460, 1, 20),
    (0x24EA, 0, 1), (0x3251, 21, 15), (0x32B1, 36, 15), (0x1D7CE, 0, 10), (0x1D7D8, 0, 10),
    (0x1D7E2, 0, 10), (0x1D7EC, 0, 10), (0x1D7F6, 0, 10), (0x1FBF0, 0, 10)]

/-- The plain digits for a number in another shape. -/
def plainNumber? (n : Nat) : Option (List Char) :=
  numberRuns.findSome? fun (first, number, length) =>
    if first ≤ n ∧ n < first + length then some (Nat.toDigits 10 (number + (n - first)))
    else none

/-- What a character of a name becomes; `none` if a name cannot have it. -/
def mapChar? (c : Char) : Option (List Char) :=
  let n := c.toNat
  if n < 0x80 then if isForbidden c then none else some [c.toLower]
  else if dropped.contains n then some []
  else if n = 0x3002 ∨ n = 0xFF0E ∨ n = 0xFF61 then some ['.']
  else if refused.contains n || !isAssigned n then none
  else if 0xFF01 ≤ n ∧ n ≤ 0xFF5E then some [(Char.ofNat (n - 0xFEE0)).toLower]
  else some ((plainNumber? n).getD [c])

/-! ## Labels -/

/-- Whether a character combines with the one before it. -/
def isMark (c : Char) : Bool :=
  [Unicode.Category.nonspacingMark, Unicode.Category.spacingMark,
    Unicode.Category.enclosingMark].any fun t => t.contains c.toNat

/-- Whether the first letter of a text that counts for joining is in a table. -/
def meets (table : Ranges) (cs : List Char) : Bool :=
  (cs.dropWhile fun c => Joining.isTransparent c.toNat).head?.any fun c => table.contains c.toNat

/-- Whether a character may stand after a text, last character first, and before another. A joiner
needs a mark before it that allows it; one that keeps letters apart may stand between letters that
would join. -/
def fits (before : List Char) (c : Char) (after : List Char) : Bool :=
  (c != '\u200c' && c != '\u200d') || (before.head?.any fun b => virama.contains b.toNat) ||
    (c == '\u200c' && meets Joining.joinsNext before && meets Joining.joinsPrevious after)

/-- Whether all joiners of a text are in order, given the text before it, last character first. -/
def joinersFit : List Char → List Char → Bool
  | _, [] => true
  | before, c :: rest => fits before c rest && joinersFit (c :: before) rest

/-- Whether mapped text may be a label. -/
def isLabel (label : List Char) : Bool :=
  !(label.head?.any isMark) && joinersFit [] label

/-- Small letters that folding their case would change, and the mapping does not. -/
def keepsForm (c : Char) : Bool := c == 'ß' || c == 'ς'

/-- Whether the mapping would leave a character as it is. -/
def isMapped (c : Char) : Bool :=
  mapChar? c == some [c] &&
    (keepsForm c || !Unicode.Property.changesWhenCasefolded.contains c.toNat)

/-- The text that a mapped label stands for, if it is in order. -/
def labelText? (label : List Char) : Option (List Char) :=
  if label.take 4 = ['x', 'n', '-', '-'] then
    (Punycode.decode? (label.drop 4)).filter fun text =>
      (text.any fun c => 128 ≤ c.toNat) && text.all isMapped && isLabel text
  else if isLabel label then some label
  else none

/-! ## Directions -/

/-- Whether what follows the first character of a label keeps to its direction: no letter of the
other one, a letter or a digit at the end, and digits of one kind among letters from right to
left. -/
def keepsDirection (first : Direction) (tail : List Direction) : Bool :=
  let body := (tail.reverse.dropWhile (· == .mark)).reverse
  match first with
  | .leftToRight =>
    !body.contains .rightToLeft && !body.contains .arabicNumber &&
      body.getLast?.all fun d => d == .leftToRight || d == .europeanNumber
  | .rightToLeft =>
    !body.contains .leftToRight &&
      !(body.contains .europeanNumber && body.contains .arabicNumber) &&
      body.getLast?.all fun d => d != .neutral
  | _ => false

/-- Whether labels are in order where some of their text is read from right to left. -/
def directionsFit (labels : List (List Char)) : Bool :=
  let directions := labels.map fun label => label.map fun c => Direction.ofCode c.toNat
  !(directions.any fun ds => ds.contains .rightToLeft || ds.contains .arabicNumber) ||
    directions.all fun ds =>
      match ds with
      | [] => true
      | first :: tail => keepsDirection first tail

/-! ## Names -/

/-- The mapped form of a name. -/
def domain? (text : List Char) : Option (List Char) :=
  match text.mapM mapChar? with
  | none => none
  | some parts =>
    let name := parts.flatten
    match (Text.pieces '.' name).mapM labelText? with
    | some labels => if directionsFit labels then some name else none
    | none => none

end JsonSchema.Format.Domain
