import JsonSchema.Schema.Rules
import JsonSchema.Schema.Violation
import JsonSchema.Format.Registry
import JsonSchema.Pattern.Basic

/-!
# `JsonSchema.Schema.Audit` — what a schema says in vain

The audit walks the places of a schema that validation can reach and warns of keywords that are not
understood, of values that cannot be used, and of formats without a checker. A warning never makes
a schema unusable.

## Contents
- **Warnings.** `Flaw`, its `kind` and `message`, and `Warning`.
- **One keyword.** `flaw?`.
- **Walk.** `audit`.
-/

namespace JsonSchema

/-! ## Warnings -/

/-- The kinds of warnings. -/
inductive WarningKind where
  | unrecognizedKeyword | malformedKeyword | unknownFormat
deriving DecidableEq

/-- The name of a kind. -/
def WarningKind.name : WarningKind → String
  | .unrecognizedKeyword => "unrecognized_keyword"
  | .malformedKeyword => "malformed_keyword"
  | .unknownFormat => "unknown_format"

/-- What is wrong with a keyword. -/
inductive Flaw where
  | unrecognized
  | mustBe (expected : String)
  | unknownType (name : String)
  | tupleItems
  | invalidPattern (source : String)
  | unknownFormat (format : String)
deriving DecidableEq

namespace Flaw

/-- The kind of warning that a flaw makes. -/
def kind : Flaw → WarningKind
  | .unrecognized => .unrecognizedKeyword
  | .unknownFormat _ => .unknownFormat
  | _ => .malformedKeyword

/-- The wording of a flaw of a keyword. -/
def message (keyword : String) : Flaw → String
  | .unrecognized => "unrecognized keyword \"" ++ keyword ++ "\" is ignored during validation"
  | .mustBe expected => "\"" ++ keyword ++ "\" must be " ++ expected
  | .unknownType name => "unknown type name \"" ++ name ++ "\" matches no value"
  | .tupleItems => "tuple-form \"items\" is not supported and is ignored"
  | .invalidPattern source => "invalid regular expression \"" ++ source ++ "\": <reason>"
  | .unknownFormat format =>
    "format \"" ++ format ++ "\" has no registered checker and is treated as an annotation"

end Flaw

/-- A flaw of a keyword of the schema object at a place. -/
structure Warning where
  path : Path
  keyword : String
  flaw : Flaw
deriving DecidableEq

namespace Warning

/-- The kind of a warning. -/
def kind (w : Warning) : WarningKind := w.flaw.kind

/-- The wording of a warning. -/
def message (w : Warning) : String := w.flaw.message w.keyword

/-- The warning on one line. -/
def display (w : Warning) : String := Violation.displayAt w.path w.keyword w.message

end Warning

/-! ## One keyword -/

/-- What a type keyword has to be. -/
def typeFlaw : Flaw := .mustBe "a type name or an array of type names"

/-- The first flaw among the names of a type list. -/
def typeNameFlaw? : List Value → Option Flaw
  | [] => none
  | .string name :: rest =>
    if (TypeName.ofName? name).isSome then typeNameFlaw? rest else some (.unknownType name)
  | _ :: _ => some typeFlaw

/-- The flaw of a value that is not what it must be. -/
def mustHold (condition : Bool) (expected : String) : Option Flaw :=
  if condition then none else some (.mustBe expected)

/-- What is wrong with the value of a keyword. -/
def flaw? (formats : FormatRegistry) : Keyword → Value → Option Flaw
  | .type, .string name => typeNameFlaw? [.string name]
  | .type, .array names => typeNameFlaw? names
  | .type, _ => some typeFlaw
  | .enum, v => mustHold v.array?.isSome "an array"
  | .properties, v => mustHold v.object?.isSome "an object"
  | .required, .array names =>
    mustHold (names.all fun n => n.string?.isSome) "an array of property names"
  | .required, _ => some (.mustBe "an array of property names")
  | .additionalProperties, .bool _ => none
  | .additionalProperties, .object _ => none
  | .additionalProperties, _ => some (.mustBe "a boolean or a schema")
  | .items, .bool _ => none
  | .items, .object _ => none
  | .items, .array _ => some .tupleItems
  | .items, _ => some (.mustBe "a schema")
  | .minItems, v | .maxItems, v | .minLength, v | .maxLength, v =>
    mustHold v.count?.isSome "a non-negative integer"
  | .minimum, v | .maximum, v | .exclusiveMinimum, v | .exclusiveMaximum, v =>
    mustHold v.number?.isSome "a number"
  | .pattern, .string source =>
    if (Pattern.compile? source).isSome then none else some (.invalidPattern source)
  | .pattern, _ => some (.mustBe "a string")
  | .format, .string name => if formats.has name then none else some (.unknownFormat name)
  | .format, _ => some (.mustBe "a string")
  | _, _ => none

/-- What is wrong with a member of a schema object. -/
def memberFlaw? (formats : FormatRegistry) (name : String) (v : Value) : Option Flaw :=
  match Keyword.ofName? name with
  | none => some .unrecognized
  | some k => flaw? formats k v

/-- The warnings about the members of one schema object, in their order. -/
def ownWarnings (formats : FormatRegistry) (path : Path) (rules : Rules) : List Warning :=
  rules.filterMap fun (name, v) => (memberFlaw? formats name v).map fun f => ⟨path, name, f⟩

/-! ## Walk -/

mutual

/-- All warnings about a schema that stands at the end of a trail. -/
def warnings (formats : FormatRegistry) (trail : Trail) : Value → List Warning
  | .object rules =>
    ownWarnings formats trail.toPath rules ++
      propertyWarnings formats trail rules ++
      warningsUnder formats .additionalProperties trail rules ++
      warningsUnder formats .items trail rules
  | _ => []

/-- All warnings about the schemas of declared members. -/
def propertyWarnings (formats : FormatRegistry) (trail : Trail) : Members → List Warning
  | [] => []
  | (name, .object schemas) :: rest =>
    if name = Keyword.properties.name then
      schemaWarnings formats (trail.key name) schemas
    else propertyWarnings formats trail rest
  | (name, _) :: rest =>
    if name = Keyword.properties.name then [] else propertyWarnings formats trail rest

/-- All warnings about schemas, each under its name. -/
def schemaWarnings (formats : FormatRegistry) (trail : Trail) : Members → List Warning
  | [] => []
  | (name, schema) :: rest =>
    warnings formats (trail.key name) schema ++ schemaWarnings formats trail rest

/-- All warnings about the schema of a keyword. -/
def warningsUnder (formats : FormatRegistry) (k : Keyword) (trail : Trail) :
    Members → List Warning
  | [] => []
  | (name, schema) :: rest =>
    if name = k.name then warnings formats (trail.key name) schema
    else warningsUnder formats k trail rest

end

/-- The warnings about a schema. -/
def audit (formats : FormatRegistry) (schema : Value) : List Warning :=
  warnings formats .root schema

end JsonSchema
