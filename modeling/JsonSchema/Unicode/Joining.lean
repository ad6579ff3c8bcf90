import JsonSchema.Unicode.Category

/-!
# `JsonSchema.Unicode.Joining` — letters that join their neighbours

In cursive scripts a letter takes its shape from the letters that it joins. The ranges are those of
the Unicode character database. They may run over code points without a character.

## Contents
- **Tables.** `joinsNext`, `joinsPrevious`.
- **Transparency.** `isTransparent`: characters that letters join across.
-/

namespace JsonSchema.Unicode.Joining

/-- Letters that join the letter after them. -/
def joinsNext : Ranges := Ranges.ofText
    "1568 1 5 1 1 1 1 5 4 13 1 7 1 2 35 2 8 16 18 38 1 2 9 1 1 1 1 2 40 3 2 1 18 3 5 4 1 9 1 1 1
    1 1 2 31 11 3 15 2 4 1 1 2 3 2 6 74 33 86 5 2 1 1 10 1 1 10 1 1 4 2 1 29 1 2 5 18 10 5 2 2
    6 1 15 3902 1 24 89 14 34 1 1 36757 51 25165 5 8 1 5 10 1 3 10 4 145 1 1 1 3 3 1 2 1 1 2 1
    28 2 337 34 1 1 524 3 1 17 12 3 28 4 2 12 46 1 1 2 4 1 2 2 1 2 1 1 2 1 5 2 55604 68"

/-- Letters that join the letter before them. -/
def joinsPrevious : Ranges := Ranges.ofText
    "1568 1 1 30 1 10 35 2 1 3 1 95 1 1 24 2 10 3 2 1 16 1 1 30 29 51 74 33 85 25 7 1 1 4 1 28 3
    1 2 6 17 13 1 27 3902 1 24 89 14 34 1 1 36757 50 25166 6 1 1 1 2 3 9 1 10 2 1 6 5 144 18 23
    6 338 35 524 21 12 4 27 18 46 1 1 5 1 8 1 4 4 2 55605 68"

/-- Format characters that letters do not join across. -/
def separating : Ranges := Ranges.ofText
    "1536 6 215 1 434 2 80 1 3883 1 2045 2 88 4 61523 1 15 1"

/-- Whether letters join across a code point. -/
def isTransparent (n : Nat) : Bool :=
  n == 0x1E94B || Category.nonspacingMark.contains n || Category.enclosingMark.contains n ||
    (Category.format.contains n && !separating.contains n)

end JsonSchema.Unicode.Joining
