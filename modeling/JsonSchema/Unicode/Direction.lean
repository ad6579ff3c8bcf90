import JsonSchema.Unicode.Category

/-!
# `JsonSchema.Unicode.Direction` — the direction in which characters are read

The ranges are those of the Unicode character database. They may run over code points without a
character.

## Contents
- **Tables.** `rightToLeft`, `arabicNumber`, `europeanNumber`, `neutral`, and `isMark`.
- **Directions.** `Direction`, `Direction.ofCode`.
-/

namespace JsonSchema.Unicode

/-- The directions of characters. Marks take that of the character before them, digits have rules
of their own, and signs take that of what surrounds them. -/
inductive Direction where
  | leftToRight | rightToLeft | europeanNumber | arabicNumber | neutral | mark
deriving DecidableEq

namespace Direction

/-! ## Tables -/

/-- Letters of scripts that are read from right to left. -/
def rightToLeftTable : Ranges := Ranges.ofText
    "1470 1 1 1 2 1 2 1 9 37 19 1 2 1 1 1 13 48 34 3 1 101 15 2 7 2 10 23 1 30 29 89 11 58 9 2 4
    1 3 24 4 1 9 1 3 1 7 41 5 49 17 42 5957 1 56077 1 1 10 1 532 18 120 40 13 115 141 2307 284
    4 225 15 38 10 165 6 75 10 484 348 42 3 5 78 70 11 49 4 113 55305 208 48 68 7 1393"

/-- Digits that are read within text from right to left. -/
def arabicNumberTable : Ranges := Ranges.ofText
    "1536 6 90 10 1 2 112 1 434 2 80 1 66637 335"

/-- Digits that are read from left to right in any text. -/
def europeanNumberTable : Ranges := Ranges.ofText
    "48 10 120 2 5 1 1590 10 6518 1 3 6 6 10 1022 20 55924 10 967 27 54482 50 6400 11 2789 10"

/-- Signs, blanks and controls without a direction of their own. -/
def neutralTable : Ranges := Ranges.ofText
    "0 48 10 7 26 6 26 47 1 7 2 1 1 3 2 5 23 1 31 1 449 2 7 14 2 14 5 9 1 17 116 2 8 1 5 2 1 1
    110 1 403 6 118 2 1 2 1 1 1 2 90 1 115 1 10 1 268 4 504 2 7 1 245 1 257 8 125 7 448 1 250 4
    1106 10 102 1 639 1 26 2 318 1 20 27 3 1 305 6 152 34 1469 1 1 3 11 3 13 3 13 3 13 17 2 26
    5 54 5 6 10 5 11 5 17 33 63 2 1 4 1 2 10 1 1 3 5 6 1 1 1 1 1 1 4 1 11 2 4 5 5 4 2 16 41 429
    69 26 1 242 98 450 1 339 256 768 229 6 14 7 256 517 3 25 15 1 5 2 5 3 91 2 3 1 90 1 196 36
    57 2 49 16 28 3 50 15 12 4 167 4 99 2 31 1 6592 64 22160 55 326 3 99 1 10 2 128 34 102 1
    159 4 12 2 58 4 754 2 20413 1 532 18 127 1 45 3 16 10 22 60 147 17 10 7 26 6 26 11 122 30
    259 1 62 77 3 17 1918 1 537 7 1298 20 1530 13 2408 29 20464 1 19645 4 5327 8 110 89 3 1 186
    87 900 1 57 1 57 1 57 1 57 1 2875 1 3056 518 21 5 31 1 58 6 61 1 178 2411 787510 127"

/-- Marks that count as letters read from left to right. -/
def leftMarks : List Nat := [0xCBF, 0xCC6, 0x11A07, 0x11A08, 0x11C3F]

/-- Whether a code point is a mark without a direction of its own. -/
def isMark (n : Nat) : Bool :=
  (Category.nonspacingMark.contains n || Category.enclosingMark.contains n) && !leftMarks.contains n

/-! ## Directions -/

/-- The direction of a code point. -/
def ofCode (n : Nat) : Direction :=
  if rightToLeftTable.contains n then .rightToLeft
  else if arabicNumberTable.contains n then .arabicNumber
  else if europeanNumberTable.contains n then .europeanNumber
  else if neutralTable.contains n then .neutral
  else if isMark n then .mark
  else .leftToRight

end Direction

end JsonSchema.Unicode
