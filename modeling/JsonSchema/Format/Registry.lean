import JsonSchema.Unicode.Category
import JsonSchema.Unicode.Property

/-!
# `JsonSchema.Format.Registry` — the checkers of named formats

## Contents
- **Registry.** `FormatRegistry`, `register`, `check`, `has`, `names`.
- **Display.** `FormatRegistry.describe`.
-/

namespace JsonSchema

/-- What a format says about a text. -/
inductive FormatVerdict where
  | valid | invalid | unknown
deriving DecidableEq

/-- The checkers of formats by name, each name once. -/
structure FormatRegistry where
  checkers : List (String × (String → Bool))

namespace FormatRegistry

/-- No checkers. -/
def empty : FormatRegistry := ⟨[]⟩

/-- Set the checker of a name. -/
def register (r : FormatRegistry) (name : String) (checker : String → Bool) : FormatRegistry :=
  ⟨(name, checker) :: r.checkers.filter fun e => e.1 != name⟩

/-- The checker of a name. -/
def find? (r : FormatRegistry) (name : String) : Option (String → Bool) := r.checkers.lookup name

/-- Check a text against the format of a name. -/
def check (r : FormatRegistry) (name text : String) : FormatVerdict :=
  match r.find? name with
  | some checker => if checker text then .valid else .invalid
  | none => .unknown

/-- Whether a name has a checker. -/
def has (r : FormatRegistry) (name : String) : Bool := (r.find? name).isSome

/-- The names in rising order. -/
def names (r : FormatRegistry) : List String :=
  (r.checkers.map Prod.fst).mergeSort fun a b => decide (a ≤ b)

/-! ## Display -/

/-- Whether a character shows as itself between quotes. -/
def isShown (n : Nat) : Bool :=
  !Unicode.Property.graphemeExtend.contains n &&
    (n == 0x20 || !(Unicode.Category.spaceSeparator.contains n)) &&
    !([Unicode.Category.lineSeparator, Unicode.Category.paragraphSeparator,
      Unicode.Category.control, Unicode.Category.format, Unicode.Category.privateUse].any
        fun t => t.contains n) &&
    Unicode.Category.assigned.any fun t => t.contains n

/-- A character between quotes. -/
def displayChar (c : Char) : List Char :=
  match c with
  | '"' => ['\\', '"']
  | '\\' => ['\\', '\\']
  | '\n' => ['\\', 'n']
  | '\r' => ['\\', 'r']
  | '\t' => ['\\', 't']
  | '\x00' => ['\\', '0']
  | c =>
    if isShown c.toNat then [c]
    else ['\\', 'u', '{'] ++ Nat.toDigits 16 c.toNat ++ ['}']

/-- A name between quotes. -/
def displayName (name : String) : List Char := '"' :: name.toList.flatMap displayChar ++ ['"']

/-- The registry as one line: its names in rising order. -/
def describe (r : FormatRegistry) : String :=
  "FormatRegistry \x7b formats: [" ++
    String.ofList (List.intercalate [',', ' '] (r.names.map displayName)) ++ "] \x7d"

end FormatRegistry

end JsonSchema
