import JsonSchema.Text.Bytes
import JsonSchema.Text.Digits

/-!
# `JsonSchema.Format.Date` — the `date` format

A date is written `YYYY-MM-DD` in ASCII digits and names a day of the proleptic Gregorian calendar
in the years 0 to 9999. The shape is looked for in the bytes of the text, and the text is then cut at
byte offsets; a cut that is not possible gives no answer.

## Contents
- **Calendar.** `isLeap`, `daysIn`, `isDay`.
- **Text.** `dateShape?`, `namesDay?`, `isDate?`, `isDate`.
-/

namespace JsonSchema.Format

open Text (bytes slice? natural? integer?)

/-! ## Calendar -/

/-- Whether a year is a leap year. -/
def isLeap (year : Int) : Bool := year % 4 == 0 && (year % 100 != 0 || year % 400 == 0)

/-- The number of days in a month; zero for what is no month. -/
def daysIn (year : Int) (month : Nat) : Nat :=
  match month with
  | 1 | 3 | 5 | 7 | 8 | 10 | 12 => 31
  | 4 | 6 | 9 | 11 => 30
  | 2 => if isLeap year then 29 else 28
  | _ => 0

/-- Whether year, month and day name a day of the calendar. -/
def isDay (year : Int) (month day : Nat) : Bool := 1 ≤ day && day ≤ daysIn year month

/-! ## Text -/

/-- The byte of a hyphen. -/
def hyphen : UInt8 := 0x2d

/-- Whether a byte is that of an ASCII digit. -/
def isDigitByte (b : UInt8) : Bool := 0x30 ≤ b && b ≤ 0x39

/-- Whether bytes have the shape `YYYY-MM-DD`. -/
def dateShape? (bs : List UInt8) : Option Bool :=
  if bs.length = 10 then do
    let first ← bs[4]?
    let second ← bs[7]?
    return first == hyphen && second == hyphen &&
      bs.zipIdx.all fun (b, i) => i == 4 || i == 7 || isDigitByte b
  else some false

/-- Whether the numbers at the places of year, month and day name a day. -/
def namesDay? (cs : List Char) : Option Bool := do
  let year ← slice? 0 4 cs
  let month ← slice? 5 7 cs
  let day ← slice? 8 10 cs
  return match integer? 0x80000000 year, natural? 0x100000000 month, natural? 0x100000000 day with
    | some y, some m, some d => isDay y m d
    | _, _, _ => false

/-- Whether characters are a date; `none` where a byte is missing or a cut is not possible. -/
def isDate? (cs : List Char) : Option Bool := do
  if ← dateShape? (bytes cs) then namesDay? cs else return false

/-- Whether a text is a date. -/
def isDate (text : String) : Bool := isDate? text.toList == some true

end JsonSchema.Format
