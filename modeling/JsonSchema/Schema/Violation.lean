import JsonSchema.Pointer
import JsonSchema.Json.Value
import JsonSchema.Schema.Keyword

/-!
# `JsonSchema.Schema.Violation` — the ways in which a value breaks a schema

## Contents
- **Causes.** `Breach`, its `keyword` and `message`.
- **Violations.** `Violation`: a message about a keyword at a place, and its one-line `display`.
- **Results.** `Verdict`: the violations of one document, in order.
-/

namespace JsonSchema

/-! ## Causes -/

/-- Why a value breaks a rule. Values are held as the text that shows them. -/
inductive Breach where
  | nothingAllowed
  | wrongType (expected : List String) (found : Kind)
  | notAllowed (shown : String)
  | notConstant (shown constant : String)
  | missingMember (name : String)
  | undeclaredMember (name : String)
  | tooFewItems (count limit : Nat)
  | tooManyItems (count limit : Nat)
  | tooShort (length limit : Nat)
  | tooLong (length limit : Nat)
  | patternMismatch (text pattern : String)
  | patternUnusable (pattern : String)
  | formatMismatch (text format : String)
  | formatUnknown (format : String)
  | belowMinimum (number bound : Number)
  | aboveMaximum (number bound : Number)
  | notAboveMinimum (number bound : Number)
  | notBelowMaximum (number bound : Number)

namespace Breach

/-- The keyword that a breach is about; a schema that is `false` counts as one. -/
def keyword : Breach → String
  | .nothingAllowed => "false"
  | .wrongType _ _ => Keyword.type.name
  | .notAllowed _ => Keyword.enum.name
  | .notConstant _ _ => Keyword.const.name
  | .missingMember _ => Keyword.required.name
  | .undeclaredMember _ => Keyword.additionalProperties.name
  | .tooFewItems _ _ => Keyword.minItems.name
  | .tooManyItems _ _ => Keyword.maxItems.name
  | .tooShort _ _ => Keyword.minLength.name
  | .tooLong _ _ => Keyword.maxLength.name
  | .patternMismatch _ _ | .patternUnusable _ => Keyword.pattern.name
  | .formatMismatch _ _ | .formatUnknown _ => Keyword.format.name
  | .belowMinimum _ _ => Keyword.minimum.name
  | .aboveMaximum _ _ => Keyword.maximum.name
  | .notAboveMinimum _ _ => Keyword.exclusiveMinimum.name
  | .notBelowMaximum _ _ => Keyword.exclusiveMaximum.name

/-- The text of a number in a message. -/
def shown (n : Number) : String := n.write .json

/-- The wording of a breach. -/
def message : Breach → String
  | .nothingAllowed => "no value is allowed here"
  | .wrongType [name] found => "expected " ++ name ++ ", found " ++ found.name
  | .wrongType names found =>
    "expected one of [" ++ ", ".intercalate names ++ "], found " ++ found.name
  | .notAllowed shown => shown ++ " is not one of the allowed values"
  | .notConstant shown constant => shown ++ " does not equal the constant " ++ constant
  | .missingMember name => "missing required property \"" ++ name ++ "\""
  | .undeclaredMember name => "additional property \"" ++ name ++ "\" is not allowed"
  | .tooFewItems count limit =>
    "array has " ++ toString count ++ " item(s), fewer than the minimum of " ++ toString limit
  | .tooManyItems count limit =>
    "array has " ++ toString count ++ " item(s), more than the maximum of " ++ toString limit
  | .tooShort length limit =>
    "string length " ++ toString length ++ " is less than minLength " ++ toString limit
  | .tooLong length limit =>
    "string length " ++ toString length ++ " is greater than maxLength " ++ toString limit
  | .patternMismatch text pattern =>
    "\"" ++ text ++ "\" does not match pattern \"" ++ pattern ++ "\""
  | .patternUnusable pattern => "pattern \"" ++ pattern ++ "\" cannot be applied: <reason>"
  | .formatMismatch text format => "\"" ++ text ++ "\" is not a valid " ++ format
  | .formatUnknown format => "unknown format \"" ++ format ++ "\""
  | .belowMinimum n bound => shown n ++ " is less than the minimum of " ++ shown bound
  | .aboveMaximum n bound => shown n ++ " is greater than the maximum of " ++ shown bound
  | .notAboveMinimum n bound =>
    shown n ++ " is not greater than the exclusive minimum of " ++ shown bound
  | .notBelowMaximum n bound =>
    shown n ++ " is not less than the exclusive maximum of " ++ shown bound

end Breach

/-! ## Violations -/

/-- A message about a keyword at a place. -/
structure Violation where
  path : Path
  keyword : String
  message : String
deriving DecidableEq

namespace Violation

/-- The violation that a breach makes at a place. -/
def ofBreach (path : Path) (b : Breach) : Violation := ⟨path, b.keyword, b.message⟩

/-- A message about a keyword, and the pointer to its place or the word for the root. -/
def displayAt (path : Path) (keyword message : String) : String :=
  let place := path.pointer
  keyword ++ ": " ++ message ++ " (at " ++ (if place.isEmpty then "root" else place) ++ ")"

/-- The violation on one line. -/
def display (v : Violation) : String := displayAt v.path v.keyword v.message

end Violation

/-! ## Results -/

/-- The violations of one document, in order. -/
structure Verdict where
  violations : List Violation
deriving DecidableEq

namespace Verdict

/-- Whether there is no violation. -/
def valid (v : Verdict) : Bool := v.violations.isEmpty

/-- The number of violations. -/
def count (v : Verdict) : Nat := v.violations.length

end Verdict

end JsonSchema
