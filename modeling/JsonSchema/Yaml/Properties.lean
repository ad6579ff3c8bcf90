import JsonSchema.Yaml.Quoted
import JsonSchema.Yaml.Token

/-!
# `JsonSchema.Yaml.Properties` — anchors, tags and directives as text

Each function reads what follows the indicator and gives a token and the rest of the text.

## Contents
- **Anchors.** `name?`.
- **Tags.** `uri?`, `tag?`.
- **Directives.** `directive?`.
-/

namespace JsonSchema.Yaml

/-! ## Anchors -/

/-- Whether the name of an anchor may end before a text. -/
def endsName (cs : List Char) : Bool :=
  endsWord cs || cs.head?.any fun c => "?:,]\x7d%@`".toList.contains c

/-- The name after the indicator of an anchor or an alias. -/
def name? (cs : List Char) : Option (String × List Char) :=
  let rest := cs.dropWhile isWord
  let name := cs.takeWhile isWord
  if !name.isEmpty && endsName rest then some (String.ofList name, rest) else none

/-! ## Tags -/

/-- Whether a character stands for itself in a tag; some do so only where the tag is bracketed. -/
def isUriChar (bracketed : Bool) (c : Char) : Bool :=
  isWord c || ";/?:@&=+$.!~*'()".toList.contains c ||
    (bracketed && ",[]".toList.contains c)

/-- The bytes of a tag and what follows them; a percent sign has to bring two digits. -/
def uriBytes? (bracketed : Bool) : List Char → Option (List UInt8 × List Char)
  | '%' :: a :: b :: rest =>
    match Text.digit? 16 a, Text.digit? 16 b with
    | some high, some low =>
      (uriBytes? bracketed rest).map fun (bytes, rest) =>
        (UInt8.ofNat (16 * high + low) :: bytes, rest)
    | _, _ => none
  | c :: rest =>
    if c = '%' then none
    else if isUriChar bracketed c then
      (uriBytes? bracketed rest).map fun (bytes, rest) => (String.utf8EncodeChar c ++ bytes, rest)
    else some ([], c :: rest)
  | [] => some ([], [])

/-- The text of a tag, if its bytes are text, and what follows it. -/
def uri? (bracketed : Bool) (cs : List Char) : Option (String × List Char) :=
  (uriBytes? bracketed cs).bind fun (bytes, rest) =>
    (String.fromUTF8? ⟨bytes.toArray⟩).map fun text => (text, rest)

/-- A part of a tag that may not be empty. -/
def uriPart? (bracketed : Bool) (cs : List Char) : Option (String × List Char) :=
  (uri? bracketed cs).bind fun (text, rest) => if text.isEmpty then none else some (text, rest)

/-- The handle and the suffix of the tag after an exclamation mark: a tag in angle brackets has no
handle, one with a second mark has its own, and a lone mark is its own suffix. -/
def tagParts? (cs : List Char) : Option (Token × List Char) :=
  match cs with
  | '<' :: rest =>
    match uriPart? true rest with
    | some (suffix, '>' :: rest) => some (.tag "" suffix, rest)
    | _ => none
  | cs =>
    match cs.dropWhile isWord with
    | '!' :: rest =>
      let handle := "!" ++ String.ofList (cs.takeWhile isWord) ++ "!"
      (uriPart? false rest).map fun (suffix, rest) => (.tag handle suffix, rest)
    | _ =>
      (uri? false cs).map fun (suffix, rest) =>
        (if suffix.isEmpty then .tag "" "!" else .tag "!" suffix, rest)

/-- The tag after an exclamation mark, which has to end where a word does. -/
def tag? (flow : Bool) (cs : List Char) : Option (Token × List Char) :=
  (tagParts? cs).bind fun (token, rest) =>
    if endsWord rest || (flow && rest.head? == some ',') then some (token, rest) else none

/-! ## Directives -/

/-- A number of a version, of at most nine digits. -/
def versionNumber? (cs : List Char) : Option (Nat × List Char) :=
  let digits := cs.takeWhile Char.isDigit
  if 1 ≤ digits.length ∧ digits.length ≤ 9 then
    (Text.numeral? 10 digits).map fun n => (n, cs.dropWhile Char.isDigit)
  else none

/-- The version after its directive. -/
def version? (cs : List Char) : Option (Token × List Char) :=
  match versionNumber? (cs.dropWhile isBlank) with
  | some (major, '.' :: rest) =>
    (versionNumber? rest).map fun (minor, rest) => (.version major minor, rest)
  | _ => none

/-- A handle in a directive: a mark, or a word between two marks. -/
def handle? (cs : List Char) : Option (String × List Char) :=
  match cs with
  | '!' :: rest =>
    match rest.dropWhile isWord with
    | '!' :: after => some ("!" ++ String.ofList (rest.takeWhile isWord) ++ "!", after)
    | after => if (rest.takeWhile isWord).isEmpty then some ("!", after) else none
  | _ => none

/-- The handle and what it expands to after their directive. -/
def tagHandle? (cs : List Char) : Option (Token × List Char) :=
  match handle? (cs.dropWhile isBlank) with
  | some (handle, rest) =>
    if rest.head?.any isBlank then
      (uriPart? true (rest.dropWhile isBlank)).bind fun (expansion, rest) =>
        if endsWord rest then some (.tagHandle handle expansion, rest) else none
    else none
  | none => none

/-- The directive after a percent sign, to the end of its line. -/
def directive? (cs : List Char) : Option (Token × List Char) :=
  let rest := cs.dropWhile isWord
  let read :=
    if endsWord rest then
      match String.ofList (cs.takeWhile isWord) with
      | "YAML" => version? rest
      | "TAG" => tagHandle? rest
      | _ => none
    else none
  read.bind fun (token, rest) =>
    match rest.dropWhile isBlank with
    | [] => some (token, [])
    | c :: after =>
      if c = '#' then some (token, (after.dropWhile fun c => !isBreak c).drop 1)
      else if isBreak c then some (token, after)
      else none

end JsonSchema.Yaml
