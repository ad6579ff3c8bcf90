import JsonSchema.Schema.Rules
import JsonSchema.Schema.Violation
import JsonSchema.Format.Registry
import JsonSchema.Json.Printer
import JsonSchema.Pattern.Basic

/-!
# `JsonSchema.Schema.Validation` — a document against a schema

A walk over the document gathers *findings*: breaches, and texts that a pattern has yet to judge.
It calls no pattern, so its result depends on the two values and the formats alone. The findings of
a value come before those of its parts, and parts are visited in document order. A type that does
not fit closes the value: no other keyword of that schema is looked at.

## Contents
- **Findings.** `Finding`, `FormatPolicy`.
- **One value.** `generalFindings`, `objectFindings`, `arrayFindings`, `stringFindings`,
  `numberFindings`, and `ownFindings`, which joins them.
- **Walk.** `findings`.
- **Judgement.** `Finding.settle`, `validate`.
-/

namespace JsonSchema

/-! ## Findings -/

/-- What the walk finds at a place: a breach, or a text that has to match a pattern. -/
inductive Finding where
  | breach (path : Path) (breach : Breach)
  | test (path : Path) (text pattern : String)

/-- The formats to check, and whether a format without a checker is a breach. -/
structure FormatPolicy where
  registry : FormatRegistry
  strict : Bool

/-! ## One value -/

/-- How much of a value a message shows. -/
def previewLimit : Nat := 60

/-- A value as messages show it: compact, and cut when it is long. -/
def preview (v : Value) : String :=
  let text := v.compactChars
  if text.length ≤ previewLimit then String.ofList text
  else String.ofList (text.take previewLimit) ++ "..."

/-- The breach, if a condition holds. -/
def breachIf (condition : Bool) (b : Breach) : List Breach := if condition then [b] else []

/-- The breach that a limit or bound makes, if it is set and broken. -/
def breachOf {α : Type} (limit : Option α) (broken : α → Bool) (b : α → Breach) : List Breach :=
  match limit with
  | some l => breachIf (broken l) (b l)
  | none => []

/-- What every kind of value is held to. -/
def generalBreaches (rules : Rules) (v : Value) : List Breach :=
  breachOf rules.allowed? (fun values => !values.any fun a => a.equiv v)
      (fun _ => .notAllowed (preview v)) ++
    breachOf rules.constant? (fun c => !c.equiv v) fun c => .notConstant (preview v) (preview c)

/-- What an object is held to, its members' own values aside. -/
def objectBreaches (rules : Rules) (members : Members) : List Breach :=
  ((rules.required.filter fun name => !members.has name).map .missingMember) ++
    if rules.forbidsOthers then
      ((members.map Prod.fst).filter fun name => (rules.property? name).isNone).map
        .undeclaredMember
    else []

/-- What an array is held to, its elements aside. -/
def arrayBreaches (rules : Rules) (count : Nat) : List Breach :=
  breachOf (rules.limit? .minItems) (fun l => count < l) (.tooFewItems count) ++
    breachOf (rules.limit? .maxItems) (fun l => l < count) (.tooManyItems count)

/-- What the length of a text is held to. -/
def lengthBreaches (rules : Rules) (length : Nat) : List Breach :=
  breachOf (rules.limit? .minLength) (fun l => length < l) (.tooShort length) ++
    breachOf (rules.limit? .maxLength) (fun l => l < length) (.tooLong length)

/-- What the format of a text is held to. -/
def formatBreaches (policy : FormatPolicy) (rules : Rules) (text : String) : List Breach :=
  match rules.format? with
  | none => []
  | some format =>
    match policy.registry.check format text with
    | .valid => []
    | .invalid => [.formatMismatch text format]
    | .unknown => breachIf policy.strict (.formatUnknown format)

/-- What a number is held to. -/
def numberBreaches (rules : Rules) (n : Number) : List Breach :=
  breachOf (rules.bound? .minimum) (fun b => n.compare b == .lt) (.belowMinimum n) ++
    breachOf (rules.bound? .maximum) (fun b => n.compare b == .gt) (.aboveMaximum n) ++
    breachOf (rules.bound? .exclusiveMinimum) (fun b => n.compare b != .gt) (.notAboveMinimum n) ++
    breachOf (rules.bound? .exclusiveMaximum) (fun b => n.compare b != .lt) (.notBelowMaximum n)

/-- The findings about a text: its length, its pattern, its format. -/
def stringFindings (policy : FormatPolicy) (rules : Rules) (path : Path) (text : String) :
    List Finding :=
  (lengthBreaches rules text.length).map (.breach path) ++
    (rules.pattern?.toList.map fun pattern => .test path text pattern) ++
    (formatBreaches policy rules text).map (.breach path)

/-- The findings that the kind of a value brings. -/
def kindFindings (policy : FormatPolicy) (rules : Rules) (path : Path) : Value → List Finding
  | .object members => (objectBreaches rules members).map (.breach path)
  | .array elements => (arrayBreaches rules elements.length).map (.breach path)
  | .string text => stringFindings policy rules path text
  | .number n => (numberBreaches rules n).map (.breach path)
  | .null | .bool _ => []

/-- The findings about a value itself. -/
def ownFindings (policy : FormatPolicy) (schema : Value) (path : Path) (v : Value) :
    List Finding :=
  match schema with
  | .object rules =>
    if Rules.opens rules v then
      (generalBreaches rules v).map (Finding.breach path) ++ kindFindings policy rules path v
    else [.breach path (.wrongType ((Rules.typeNames? rules).getD []) v.kind)]
  | .bool false => [.breach path .nothingAllowed]
  | _ => []

/-- The rules that reach a value's parts: those of an object schema whose type lets it through. -/
def openRules? (schema v : Value) : Option Rules :=
  match schema with
  | .object rules => if Rules.opens rules v then some rules else none
  | _ => none

/-! ## Walk -/

mutual

/-- All findings in a value that stands at the end of a trail. -/
def findings (policy : FormatPolicy) (schema : Value) (trail : Trail) : Value → List Finding
  | .object members =>
    ownFindings policy schema trail.toPath (.object members) ++
      match openRules? schema (.object members) with
      | some rules => memberFindings policy rules trail members
      | none => []
  | .array elements =>
    ownFindings policy schema trail.toPath (.array elements) ++
      match (openRules? schema (.array elements)).bind Rules.elementSchema? with
      | some items => elementFindings policy items trail 0 elements
      | none => []
  | v => ownFindings policy schema trail.toPath v

/-- All findings in the members of an object, each under the schema that governs it. -/
def memberFindings (policy : FormatPolicy) (rules : Rules) (trail : Trail) :
    Members → List Finding
  | [] => []
  | (name, v) :: rest =>
    (match rules.memberSchema? name with
      | some schema => findings policy schema (trail.key name) v
      | none => []) ++ memberFindings policy rules trail rest

/-- All findings in the elements of an array from a position on. -/
def elementFindings (policy : FormatPolicy) (items : Value) (trail : Trail) :
    Nat → List Value → List Finding
  | _, [] => []
  | i, v :: rest =>
    findings policy items (trail.index i) v ++ elementFindings policy items trail (i + 1) rest

end

/-! ## Judgement -/

namespace Finding

/-- What a compiled pattern says about a text; `none` is a pattern that does not compile. -/
def judge (path : Path) (text source : String) (compiled : Option Pattern) : Option Violation :=
  match compiled with
  | none => some (.ofBreach path (.patternUnusable source))
  | some pattern =>
    if pattern.found text then none
    else some (.ofBreach path (.patternMismatch text source))

/-- The violation that a finding makes, patterns being compiled as given. -/
def settle (compile : String → Option Pattern) : Finding → Option Violation
  | .breach path b => some (.ofBreach path b)
  | .test path text source => judge path text source (compile source)

end Finding

/-- The verdict on a document. -/
def validate (policy : FormatPolicy) (schema document : Value) : Verdict :=
  ⟨(findings policy schema .root document).filterMap (Finding.settle Pattern.compile?)⟩

end JsonSchema
