import JsonSchema.Text.Digits
import JsonSchema.Yaml.Tree

/-!
# `JsonSchema.Yaml.Scalar` — what the text of a scalar means

A scalar without quotes is a null, a truth value, an integer or a float if it is written like one,
and else text. A tag of the core set asks for one of them; other tags of a set make text.

## Contents
- **Words.** `isNull`, `bool?`.
- **Numbers.** `integer?`, `float?`.
- **Scalars.** `resolve?` (by the text alone), `applyTag?`, `scalar?`.
-/

namespace JsonSchema.Yaml

/-! ## Words -/

/-- Whether a text writes a null. -/
def isNull (text : String) : Bool := ["~", "null", "Null", "NULL"].contains text

/-- The truth value that a text writes. -/
def bool? (text : String) : Option Bool :=
  if ["true", "True", "TRUE"].contains text then some true
  else if ["false", "False", "FALSE"].contains text then some false
  else none

/-! ## Numbers -/

/-- The natural that digits write, if there are any. -/
def natural? (base : Nat) (cs : List Char) : Option Nat :=
  if cs.isEmpty then none else Text.numeral? base cs

/-- The sign before a number and what follows it. -/
def signOf : List Char → Bool × List Char
  | '-' :: rest => (true, rest)
  | '+' :: rest => (false, rest)
  | cs => (false, cs)

/-- Whether a text is digits that begin with a zero, which are no number. -/
def isPadded (cs : List Char) : Bool :=
  match (signOf cs).2 with
  | '0' :: c :: rest => (c :: rest).all Char.isDigit
  | _ => false

/-- The natural that a text writes, with its base before it unless it is ten. -/
def magnitude? : List Char → Option Nat
  | '0' :: 'x' :: digits => natural? 16 digits
  | '0' :: 'o' :: digits => natural? 8 digits
  | '0' :: 'b' :: digits => natural? 2 digits
  | digits => natural? 10 digits

/-- The integer that a text writes, of any size. -/
def integer? (cs : List Char) : Option Int :=
  if isPadded cs then none
  else
    let (negative, rest) := signOf cs
    (magnitude? rest).map fun n => if negative then -(n : Int) else n

/-- The double nearest to `digits · 10^power`. Far from the range of doubles there is no need to
compute it. -/
def nearest? (negative : Bool) (digits : Nat) (power : Int) : Option Binary64 :=
  let lead := (Nat.toDigits 10 digits).length + power
  if digits = 0 ∨ lead < -400 then some (.zero negative)
  else if 400 < lead then none
  else
    let (num, den) := Binary64.decimalRatio digits power
    Binary64.ofRatio? negative num den

/-- The power of ten after a mantissa; none written is zero. -/
def exponent? : List Char → Option Int
  | [] => some 0
  | 'e' :: rest | 'E' :: rest =>
    let (negative, digits) := signOf rest
    (natural? 10 digits).map fun n => if negative then -(n : Int) else n
  | _ => none

/-- The double that a decimal writes: digits with or without a point among them, and an exponent. -/
def decimal? (negative : Bool) (cs : List Char) : Option Binary64 :=
  let whole := cs.takeWhile Char.isDigit
  let afterWhole := cs.dropWhile Char.isDigit
  let (fraction, rest) :=
    match afterWhole with
    | '.' :: after => (after.takeWhile Char.isDigit, after.dropWhile Char.isDigit)
    | after => ([], after)
  match natural? 10 (whole ++ fraction), exponent? rest with
  | some digits, some exponent => nearest? negative digits (exponent - fraction.length)
  | _, _ => none

/-- The float that a text writes. A decimal that is too large is none. -/
def float? (cs : List Char) : Option TreeNumber :=
  let (negative, rest) := signOf cs
  if [".inf", ".Inf", ".INF"].contains (String.ofList rest) then some (.infinity negative)
  else if [".nan", ".NaN", ".NAN"].contains (String.ofList cs) then some .notANumber
  else (decimal? negative rest).map fun x => .finite (.double x)

/-! ## Scalars -/

/-- Whether an integer fits 128 bits with or without a sign. Those that do not fit 64 bits as well
have no place in the data model. -/
def isWide (n : Int) : Bool := -2 ^ 127 ≤ n && n < 2 ^ 128

/-- A float or else text. -/
def floatOrText (text : String) : Tree :=
  if isPadded text.toList then .string text
  else
    match float? text.toList with
    | some x => .number x
    | none => .string text

/-- What a text without quotes means; `none` if it writes an integer that has no place. -/
def resolve? (text : String) : Option Tree :=
  if text.isEmpty || isNull text then some .null
  else
    match bool? text with
    | some b => some (.bool b)
    | none =>
      match integer? text.toList with
      | none => some (floatOrText text)
      | some n =>
        match Number.ofInt? n with
        | some n => some (.number (.finite n))
        | none => if isWide n then none else some (floatOrText text)

/-- What a scalar means that has no tag, or one of its own making. -/
def untagged? (text : String) (plain : Bool) : Option Tree :=
  if plain then resolve? text else some (.string text)

/-- What a text means under a tag of a set. -/
def applyTag? (tag text : String) : Option Tree :=
  match tag with
  | "tag:yaml.org,2002:bool" => (bool? text).map .bool
  | "tag:yaml.org,2002:int" =>
    ((integer? text.toList).bind Number.ofInt?).map fun n => .number (.finite n)
  | "tag:yaml.org,2002:float" => (float? text.toList).map .number
  | "tag:yaml.org,2002:null" => if isNull text then some .null else none
  | _ => some (.string text)

/-- Whether a tag is of the document's own making, and so stays. -/
def isOwnTag (tag : String) : Bool := tag.toList.head? == some '!'

/-- What a scalar means. -/
def scalar? (tag : Option String) (text : String) (plain : Bool) : Option Tree :=
  match tag with
  | none => untagged? text plain
  | some tag =>
    if isOwnTag tag then (untagged? text plain).map (.tagged (tagName tag))
    else applyTag? tag text

end JsonSchema.Yaml
