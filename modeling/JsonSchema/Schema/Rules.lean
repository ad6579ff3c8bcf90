import JsonSchema.Schema.Keyword

/-!
# `JsonSchema.Schema.Rules` — what a schema object says

Each keyword is read by a function of its own, which gives `none` where the keyword is missing or
has a value that cannot be used; such a keyword has no effect.

## Contents
- **Rules.** `Rules`, `Rules.at?`.
- **Any value.** `typeNames?`, `opens` (the gate that the type makes), `allowed?`, `constant?`.
- **Containers.** `properties?`, `required`, `forbidsOthers`, `memberSchema?`, `elementSchema?`.
- **Limits.** `limit?`, `bound?`, and the texts `pattern?`, `format?`.
-/

namespace JsonSchema

/-- The members of a schema object. -/
abbrev Rules := Members

namespace Rules

/-- The value of a keyword. -/
def at? (rules : Rules) (k : Keyword) : Option Value := Members.get? rules k.name

/-! ## Any value -/

/-- The type names of a schema: one name, or those of a list that are texts. -/
def typeNames? (rules : Rules) : Option (List String) :=
  match rules.at? .type with
  | some (.string name) => some [name]
  | some (.array names) => some (names.filterMap Value.string?)
  | _ => none

/-- Whether the type lets a value through to the other keywords. Without a usable name it does. -/
def opens (rules : Rules) (v : Value) : Bool :=
  match rules.typeNames? with
  | none => true
  | some names => names.isEmpty || names.any v.hasType

/-- The values that are allowed. -/
def allowed? (rules : Rules) : Option (List Value) := (rules.at? .enum).bind Value.array?

/-- The only value that is allowed. -/
def constant? (rules : Rules) : Option Value := rules.at? .const

/-! ## Containers -/

/-- The schemas of declared members. -/
def properties? (rules : Rules) : Option Members := (rules.at? .properties).bind Value.object?

/-- The schema of a declared member. -/
def property? (rules : Rules) (name : String) : Option Value :=
  rules.properties?.bind fun ms => ms.get? name

/-- The names of members that have to be there. -/
def required (rules : Rules) : List String :=
  (((rules.at? .required).bind Value.array?).getD []).filterMap Value.string?

/-- Whether members that are not declared are forbidden. -/
def forbidsOthers (rules : Rules) : Bool :=
  match rules.at? .additionalProperties with
  | some (.bool false) => true
  | _ => false

/-- The schema of members that are not declared. -/
def otherSchema? (rules : Rules) : Option Value :=
  match rules.at? .additionalProperties with
  | some (.object s) => some (.object s)
  | _ => none

/-- The schema of a member: its own, or that of members that are not declared. -/
def memberSchema? (rules : Rules) (name : String) : Option Value :=
  match rules.property? name with
  | some s => some s
  | none => rules.otherSchema?

/-- The schema of all elements. -/
def elementSchema? (rules : Rules) : Option Value :=
  match rules.at? .items with
  | some (.object s) => some (.object s)
  | some (.bool b) => some (.bool b)
  | _ => none

/-! ## Limits -/

/-- The limit that a keyword sets on a length. -/
def limit? (rules : Rules) (k : Keyword) : Option Nat := (rules.at? k).bind Value.count?

/-- The bound that a keyword sets on a number. -/
def bound? (rules : Rules) (k : Keyword) : Option Number := (rules.at? k).bind Value.number?

/-- The pattern of a text. -/
def pattern? (rules : Rules) : Option String := (rules.at? .pattern).bind Value.string?

/-- The format of a text. -/
def format? (rules : Rules) : Option String := (rules.at? .format).bind Value.string?

end Rules

end JsonSchema
