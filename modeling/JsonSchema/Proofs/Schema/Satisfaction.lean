import JsonSchema.Proofs.Schema.Keywords
import JsonSchema.Proofs.Schema.PatternCache

/-!
# `JsonSchema.Proofs.Schema.Satisfaction` — a verdict is valid exactly for what satisfies the schema

`Satisfies` is the meaning of a schema as a relation: it mentions no walk, no list of violations and no
order. Validation collects violations and never stops at the first, so both directions go through the
one equation of the walk: nothing is reported of a value iff nothing is reported of it alone, nor of
any of its parts.

## Contents
- **Meaning.** `Satisfies`, and its reading for schema objects.
- **Agreement.** `violations_eq_nil_iff`, and the main statement `valid_iff_satisfies`.
-/

namespace JsonSchema

/-! ## Meaning -/

/-- **The meaning of schemas.** A schema object is satisfied by a value of one of its types that
upholds each of its keywords, if each part that it governs satisfies the schema put on that part.
`false` is satisfied by nothing, and whatever else is no object by everything. -/
inductive Satisfies (policy : FormatPolicy) : Value → Value → Prop where
  | anything {schema v : Value} (notFalse : schema ≠ .bool false)
      (notObject : ∀ rules, schema ≠ .object rules) : Satisfies policy schema v
  | rules {rules : Rules} {v : Value} (gate : rules.GateOpen v) (own : ∀ k, Upholds policy rules v k)
      (each : ∀ t s w, Governs rules v t s w → Satisfies policy s w) :
      Satisfies policy (.object rules) v

variable {policy : FormatPolicy}

theorem not_satisfies_false {v : Value} : ¬Satisfies policy (.bool false) v := by
  intro h
  cases h with
  | anything notFalse notObject => exact notFalse rfl

theorem satisfies_object_iff {rules : Rules} {v : Value} :
    Satisfies policy (.object rules) v ↔
      rules.GateOpen v ∧ (∀ k, Upholds policy rules v k) ∧
        ∀ t s w, Governs rules v t s w → Satisfies policy s w := by
  constructor
  · intro h
    cases h with
    | anything notFalse notObject => exact absurd rfl (notObject rules)
    | rules gate own each => exact ⟨gate, own, each⟩
  · rintro ⟨gate, own, each⟩
    exact .rules gate own each

/-! ## Agreement -/

theorem violations_eq_nil_iff {schema v : Value} :
    (validate policy schema v).violations = [] ↔
      ownViolations policy schema v = [] ∧
        ∀ c ∈ parts schema v, (validate policy c.schema c.value).violations = [] := by
  rw [violations_eq, List.append_eq_nil_iff, List.flatMap_eq_nil_iff]
  simp only [List.map_eq_nil_iff]

/-- Nothing is reported exactly of what satisfies the schema. -/
theorem violations_nil_iff_satisfies (schema v : Value) :
    (validate policy schema v).violations = [] ↔ Satisfies policy schema v := by
  induction schema, v using parts_induction with
  | step schema v ih =>
      rw [violations_eq_nil_iff]
      cases schema with
      | object rules =>
          rw [satisfies_object_iff, ← Rules.opens_iff]
          by_cases hopen : Rules.opens rules v = true
          · rw [ownViolations_eq_nil_iff hopen]
            have hgate : Rules.GateOpen rules v := Rules.opens_iff.mp hopen
            refine ⟨fun ⟨hown, hparts⟩ => ⟨hopen, hown, fun t s w hg => ?_⟩,
              fun ⟨_, hown, heach⟩ => ⟨hown, fun c hc => ?_⟩⟩
            · have hc : ⟨t, s, w⟩ ∈ parts (.object rules) v := hg.mem_parts hgate
              exact (ih _ hc).mp (hparts _ hc)
            · obtain ⟨given, hschema, -, hg⟩ := mem_parts_iff.mp hc
              cases hschema
              exact (ih c hc).mpr (heach _ _ _ hg)
          · -- a closed gate is reported, and what does not pass it satisfies nothing
            rw [ownViolations_of_closed hopen]
            exact iff_of_false (fun h => absurd h.1 (by simp)) fun h => hopen h.1
      | bool b =>
          cases b with
          | false =>
              refine iff_of_false (fun h => ?_) not_satisfies_false
              exact absurd h.1 (by simp [ownViolations, ownFindings, Finding.settle])
          | true => exact iff_of_true ⟨rfl, by simp [parts, openRules?]⟩ (.anything (by simp) (by simp))
      | null | number n | string text | array elements =>
          exact iff_of_true ⟨rfl, by simp [parts, openRules?]⟩ (.anything (by simp) (by simp))

/-- **A verdict is valid exactly if the document satisfies the schema**, whatever the validator has
judged before. -/
theorem valid_iff_satisfies (policy : FormatPolicy) (calls : List (Value × Value))
    (schema document : Value) :
    ((Validator.after policy calls).validate schema document).1.valid = true ↔
      Satisfies policy schema document := by
  rw [Validator.validate_after, Verdict.valid, List.isEmpty_iff]
  exact violations_nil_iff_satisfies schema document

end JsonSchema
