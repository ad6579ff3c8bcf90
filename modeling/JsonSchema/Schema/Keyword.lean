import JsonSchema.Json.Value

/-!
# `JsonSchema.Schema.Keyword` — the keywords of schemas

## Contents
- **Keywords.** `Keyword`, its `name`, and `Keyword.ofName?`: the recognized names.
- **Types.** `TypeName`, `Value.hasType` (by name, so that an unknown one matches nothing).
- **Counts.** `Value.count?`: the values that a limit on a length may have.
-/

namespace JsonSchema

/-- The keywords that are understood. The first group constrains values, the second is there for
the reader alone. -/
inductive Keyword where
  | type | enum | const | properties | required | additionalProperties | items
  | minItems | maxItems | minLength | maxLength | pattern | format
  | minimum | maximum | exclusiveMinimum | exclusiveMaximum
  | schemaUri | id | comment | title | description | default | examples
deriving DecidableEq

namespace Keyword

/-- How a keyword is written. -/
def name : Keyword → String
  | .type => "type"
  | .enum => "enum"
  | .const => "const"
  | .properties => "properties"
  | .required => "required"
  | .additionalProperties => "additionalProperties"
  | .items => "items"
  | .minItems => "minItems"
  | .maxItems => "maxItems"
  | .minLength => "minLength"
  | .maxLength => "maxLength"
  | .pattern => "pattern"
  | .format => "format"
  | .minimum => "minimum"
  | .maximum => "maximum"
  | .exclusiveMinimum => "exclusiveMinimum"
  | .exclusiveMaximum => "exclusiveMaximum"
  | .schemaUri => "$schema"
  | .id => "$id"
  | .comment => "$comment"
  | .title => "title"
  | .description => "description"
  | .default => "default"
  | .examples => "examples"

/-- All keywords. -/
def all : List Keyword :=
  [.type, .enum, .const, .properties, .required, .additionalProperties, .items, .minItems,
    .maxItems, .minLength, .maxLength, .pattern, .format, .minimum, .maximum, .exclusiveMinimum,
    .exclusiveMaximum, .schemaUri, .id, .comment, .title, .description, .default, .examples]

/-- The keyword that a name stands for. -/
def ofName? (name : String) : Option Keyword := all.find? fun k => k.name == name

theorem mem_all (k : Keyword) : k ∈ all := by cases k <;> decide

@[simp] theorem ofName?_name (k : Keyword) : ofName? k.name = some k := by
  cases k <;> decide

/-- Different keywords are written differently. -/
theorem name_injective {a b : Keyword} (h : a.name = b.name) : a = b := by
  rw [← Option.some_inj, ← ofName?_name a, h, ofName?_name]

/-- Whether a name is that of a keyword. -/
def isRecognized (name : String) : Bool := (ofName? name).isSome

end Keyword

/-- The types that a schema can ask for. -/
inductive TypeName where
  | null | boolean | object | array | number | integer | string
deriving DecidableEq

namespace TypeName

/-- How a type is written. -/
def name : TypeName → String
  | .null => "null"
  | .boolean => "boolean"
  | .object => "object"
  | .array => "array"
  | .number => "number"
  | .integer => "integer"
  | .string => "string"

/-- All types. -/
def all : List TypeName := [.null, .boolean, .object, .array, .number, .integer, .string]

/-- The type that a name stands for. -/
def ofName? (name : String) : Option TypeName := all.find? fun t => t.name == name

end TypeName

namespace Value

/-- Whether a value is of a type. A number without a fraction is an integer, however written. -/
def isOf : Value → TypeName → Bool
  | .null, .null => true
  | .bool _, .boolean => true
  | .object _, .object => true
  | .array _, .array => true
  | .string _, .string => true
  | .number _, .number => true
  | .number n, .integer => n.isWhole
  | _, _ => false

/-- Whether a value is of the type with a name; a name of no type matches nothing. -/
def hasType (v : Value) (name : String) : Bool :=
  match TypeName.ofName? name with
  | some t => v.isOf t
  | none => false

/-- The largest limit on a length. -/
def maxCount : Nat := 2 ^ 64 - 1

/-- A limit on a length: a whole number from zero on, also one written as a double. A double that
reaches 2⁶⁴ stands for the largest limit, and one above it for none. -/
def count? : Value → Option Nat
  | .number (.integer n _ _) => if 0 ≤ n then some n.toNat else none
  | .number (.double x) =>
    if (x.negative && x.units != 0) || !x.isWhole || 2 ^ 64 * Binary64.scale < x.units then none
    else some (min (x.units / Binary64.scale) maxCount)
  | _ => none

end Value

end JsonSchema
