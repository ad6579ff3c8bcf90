/-!
# `JsonSchema.Pattern.Dialect` — from the pattern notation of schemas to that of the matcher

Schemas write ECMA-262 patterns. The matcher's notation is close to it, but its shorthand classes
range over Unicode and its bracket classes nest. So the shorthands are expanded to ASCII sets, and
a bracket inside a class is escaped; every other character and escape stays as it is.

## Contents
- **Replacements.** `wordBoundary`, `notWordBoundary`, `replacement?`.
- **Expansion.** `expandFrom` (inside or outside a class), `expand`.
-/

namespace JsonSchema.Pattern.Dialect

/-- A word character. -/
def word : String := "[A-Za-z0-9_]"

/-- Anything but a word character. -/
def notWord : String := "[^A-Za-z0-9_]"

/-- The place between a word character and anything else, or an end of the text. -/
def wordBoundary : String :=
  "(?:(?<=[A-Za-z0-9_])(?![A-Za-z0-9_])|(?<![A-Za-z0-9_])(?=[A-Za-z0-9_]))"

/-- A place that is no word boundary. -/
def notWordBoundary : String :=
  "(?:(?<=[A-Za-z0-9_])(?=[A-Za-z0-9_])|(?<![A-Za-z0-9_])(?![A-Za-z0-9_]))"

/-- What stands for an escape, by its character and whether it is in a class; `none` when the
escape stays. -/
def replacement? (inClass : Bool) (c : Char) : Option String :=
  match inClass, c with
  | false, 'd' => some "[0-9]"
  | false, 'D' => some "[^0-9]"
  | false, 'w' => some word
  | false, 'W' => some notWord
  | false, 'b' => some wordBoundary
  | false, 'B' => some notWordBoundary
  | true, 'd' => some "0-9"
  | true, 'D' => some "[:^digit:]"
  | true, 'w' => some "A-Za-z0-9_"
  | true, 'W' => some "[:^word:]"
  | true, 'b' => some "\\x08"
  | _, _ => none

/-- Expand from inside or outside a class. A backslash takes the character after it along; one
at the very end stays. -/
def expandFrom : Bool → List Char → List Char
  | _, [] => []
  | _, ['\\'] => ['\\']
  | inClass, '\\' :: c :: rest =>
    (match replacement? inClass c with
      | some text => text.toList
      | none => ['\\', c]) ++ expandFrom inClass rest
  | true, '[' :: rest => '\\' :: '[' :: expandFrom true rest
  | false, '[' :: rest => '[' :: expandFrom true rest
  | true, ']' :: rest => ']' :: expandFrom false rest
  | inClass, c :: rest => c :: expandFrom inClass rest

/-- Expand a pattern. -/
def expand (pattern : String) : String := String.ofList (expandFrom false pattern.toList)

end JsonSchema.Pattern.Dialect
