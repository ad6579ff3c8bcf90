import JsonSchema.Proofs.Schema.Keywords

/-!
# `JsonSchema.Proofs.Schema.ReadAlike` — schemas between which validation sees no difference

Validation reads a schema object keyword by keyword, each by a function of its own, and looks at nothing
else in it. Two schema objects that these functions read alike give the same verdict on every document,
also if their subschemas differ, so long as those give the same verdicts in turn.

## Contents
- **Agreement.** `SameVerdicts` on schemas.
- **Reading.** `Rules.ReadAlike`: one field for each function that reads a schema object.
- **Verdicts.** `ReadAlike.opens`, `ReadAlike.keywordViolations`, and the main statement
  `ReadAlike.sameVerdicts`.
-/

namespace JsonSchema

variable {policy : FormatPolicy} {rules rules' : Rules}

/-! ## Agreement -/

/-- Two schemas find the same in every document. -/
def SameVerdicts (policy : FormatPolicy) (s s' : Value) : Prop :=
  ∀ v, (validate policy s v).violations = (validate policy s' v).violations

theorem SameVerdicts.refl (s : Value) : SameVerdicts policy s s := fun _ => rfl

/-! ## Reading -/

/-- The keywords that bound a number. -/
def boundKeywords : List Keyword := [.minimum, .maximum, .exclusiveMinimum, .exclusiveMaximum]

/-- **Two schema objects are read alike**: each function that reads them gives the same, or schemas that
give the same verdicts. -/
structure Rules.ReadAlike (policy : FormatPolicy) (rules rules' : Rules) : Prop where
  typeNames : rules.typeNames? = rules'.typeNames?
  allowed : rules.allowed? = rules'.allowed?
  constant : rules.constant? = rules'.constant?
  required : rules.required = rules'.required
  forbidsOthers : rules.forbidsOthers = rules'.forbidsOthers
  limit : ∀ k ∈ lengthKeywords, rules.limit? k = rules'.limit? k
  bound : ∀ k ∈ boundKeywords, rules.bound? k = rules'.bound? k
  pattern : rules.pattern? = rules'.pattern?
  format : ∀ text, formatBreaches policy rules text = formatBreaches policy rules' text
  property : ∀ name, Option.Rel (SameVerdicts policy) (rules.property? name) (rules'.property? name)
  other : Option.Rel (SameVerdicts policy) rules.otherSchema? rules'.otherSchema?
  element : Option.Rel (SameVerdicts policy) rules.elementSchema? rules'.elementSchema?

/-! ## Verdicts -/

namespace Rules.ReadAlike

/-- The gate opens to the same values. -/
theorem opens (h : ReadAlike policy rules rules') (v : Value) : rules.opens v = rules'.opens v := by
  unfold Rules.opens
  rw [h.typeNames]

/-- The same members are declared. -/
theorem declares (h : ReadAlike policy rules rules') (name : String) :
    (rules.property? name).isNone = (rules'.property? name).isNone := by
  have hrel := h.property name
  generalize rules.property? name = o, rules'.property? name = o' at hrel
  cases hrel <;> rfl

/-- Members are governed by schemas that give the same verdicts. -/
theorem member (h : ReadAlike policy rules rules') (name : String) :
    Option.Rel (SameVerdicts policy) (rules.memberSchema? name) (rules'.memberSchema? name) := by
  unfold Rules.memberSchema?
  have hrel := h.property name
  generalize rules.property? name = o, rules'.property? name = o' at hrel
  cases hrel with
  | some hs => exact .some hs
  | none => exact h.other

/-- Each keyword reports the same. -/
theorem keywordViolations (h : ReadAlike policy rules rules') (v : Value) (k : Keyword) :
    keywordViolations policy rules v k = JsonSchema.keywordViolations policy rules' v k := by
  unfold JsonSchema.keywordViolations
  split
  case h_1 => rw [h.allowed]
  case h_2 => rw [h.constant]
  case h_3 => rw [h.required]
  case h_4 =>
    rw [h.forbidsOthers]
    simp only [h.declares]
  case h_5 => rw [h.limit _ (by decide)]
  case h_6 => rw [h.limit _ (by decide)]
  case h_7 => rw [h.limit _ (by decide)]
  case h_8 => rw [h.limit _ (by decide)]
  case h_9 => rw [h.pattern]
  case h_10 => rw [h.format]
  case h_11 => rw [h.bound _ (by decide)]
  case h_12 => rw [h.bound _ (by decide)]
  case h_13 => rw [h.bound _ (by decide)]
  case h_14 => rw [h.bound _ (by decide)]
  case h_15 => rfl

theorem ownViolations (h : ReadAlike policy rules rules') (v : Value) :
    ownViolations policy (.object rules) v = JsonSchema.ownViolations policy (.object rules') v := by
  by_cases hopen : rules.opens v = true
  · have hopen' : rules'.opens v = true := h.opens v ▸ hopen
    rw [ownViolations_of_open hopen, ownViolations_of_open hopen']
    exact List.flatMap_congr fun k _ => h.keywordViolations v k
  · have hclosed : ¬rules'.opens v = true := h.opens v ▸ hopen
    rw [ownViolations_of_closed hopen, ownViolations_of_closed hclosed, h.typeNames]

/-- The violations in the parts are the same: each part is governed by both or by neither. -/
theorem partViolations (h : ReadAlike policy rules rules') (v : Value) :
    let below (c : Part) : List Violation :=
      (validate policy c.schema c.value).violations.map (Violation.under [c.token])
    (rules.parts v).flatMap below = (rules'.parts v).flatMap below := by
  intro below
  cases v with
  | object members =>
      induction members with
      | nil => rfl
      | cons m rest ih =>
          have hrest : ((Rules.parts rules (.object rest)).flatMap below) =
            (Rules.parts rules' (.object rest)).flatMap below := ih
          simp only [Rules.parts, List.filterMap_cons] at hrest ⊢
          have hrel := h.member m.1
          generalize rules.memberSchema? m.1 = o, rules'.memberSchema? m.1 = o' at hrel
          cases hrel with
          | none => exact hrest
          | some hs =>
              simp only [Option.map_some, List.flatMap_cons, hrest]
              congr 1
              exact congrArg (List.map _) (hs m.2)
  | array elements =>
      unfold Rules.parts
      have hrel := h.element
      generalize rules.elementSchema? = o, rules'.elementSchema? = o' at hrel
      cases hrel with
      | none => rfl
      | some hs =>
          simp only [List.flatMap_map]
          exact List.flatMap_congr fun e _ => congrArg (List.map _) (hs e.1)
  | _ => rfl

/-- **Schema objects that are read alike give the same verdicts.** -/
theorem sameVerdicts (h : ReadAlike policy rules rules') :
    SameVerdicts policy (.object rules) (.object rules') := by
  intro v
  rw [violations_eq, violations_eq, h.ownViolations v]
  congr 1
  unfold JsonSchema.parts openRules?
  by_cases hopen : rules.opens v = true
  · have hopen' : rules'.opens v = true := h.opens v ▸ hopen
    simp only [if_pos hopen, if_pos hopen']
    exact h.partViolations v
  · have hclosed : ¬rules'.opens v = true := h.opens v ▸ hopen
    simp only [if_neg hopen, if_neg hclosed]

end Rules.ReadAlike

end JsonSchema
