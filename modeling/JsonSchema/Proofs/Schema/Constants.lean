import JsonSchema.Proofs.Json.Equality
import JsonSchema.Proofs.Json.Reordered
import JsonSchema.Proofs.Schema.Satisfaction

/-!
# `JsonSchema.Proofs.Schema.Constants` — schemas that name the values they accept

A schema object with `const` or `enum` alone asks nothing of a value but that it is equal to one that the
schema names. The laws of equality are then laws of such schemas: each value is accepted by the constant
that it is, and of two values each is accepted by the other as a constant, or neither is.

## Contents
- **One keyword.** `at?_single`, `upholds_of_missing`; `satisfies_single_iff`: a schema object of one
  keyword asks what this keyword asks.
- **Constants.** `valid_const`, `valid_enum`.
- **Laws.** `const_reflexive_symmetric`.
-/

namespace JsonSchema

/-! ## One keyword -/

section Single

variable {policy : FormatPolicy} {rules : Rules} {j k : Keyword} {x v : Value}

theorem at?_single : Rules.at? [(k.name, x)] j = if j = k then some x else none := by
  rw [Rules.at?, Members.get?_cons, Members.get?_nil]
  exact if_congr ⟨Keyword.name_injective, congrArg Keyword.name⟩ rfl rfl

/-- A keyword that is missing is upheld. -/
theorem upholds_of_missing (h : rules.at? k = none) : Upholds policy rules v k := by
  unfold Upholds
  split <;> simp [h, Rules.Limits]

theorem gateOpen_of_missing (h : rules.at? .type = none) : rules.GateOpen v := by
  rintro ⟨name, hname⟩
  simp [Rules.AsksType, h] at hname

theorem not_governs_of_missing (hproperties : rules.at? .properties = none)
    (hothers : rules.at? .additionalProperties = none) (hitems : rules.at? .items = none)
    {t : Token} {s w : Value} : ¬Governs rules v t s w := by
  intro h
  cases h with
  | declared mem declares => simp [Rules.Declares, hproperties] at declares
  | undeclared mem fresh others => simp [hothers] at others
  | element found items kind => simp [hitems] at items

/-- **A schema object of one keyword** asks what the keyword asks, unless it looks at types or parts. -/
theorem satisfies_single_iff (hk : k ∉ [.type, .properties, .additionalProperties, .items]) :
    Satisfies policy (.object [(k.name, x)]) v ↔ Upholds policy [(k.name, x)] v k := by
  have hmissing : ∀ {j : Keyword}, j ≠ k → Rules.at? [(k.name, x)] j = none := by
    intro j hj
    rw [at?_single, if_neg hj]
  simp only [List.mem_cons, List.not_mem_nil, or_false, not_or] at hk
  obtain ⟨htype, hproperties, hothers, hitems⟩ := hk
  rw [satisfies_object_iff]
  refine ⟨fun h => h.2.1 k, fun h => ⟨gateOpen_of_missing (hmissing (Ne.symm htype)), fun j => ?_, ?_⟩⟩
  · by_cases hj : j = k
    · exact hj ▸ h
    · exact upholds_of_missing (hmissing hj)
  · intro t s w hgoverns
    exact absurd hgoverns (not_governs_of_missing (hmissing (Ne.symm hproperties))
      (hmissing (Ne.symm hothers)) (hmissing (Ne.symm hitems)))

end Single

/-! ## Constants -/

section Constants

variable {policy : FormatPolicy} {v : Value}

theorem validate_valid_iff {schema : Value} :
    (validate policy schema v).valid = true ↔ Satisfies policy schema v := by
  rw [Verdict.valid, List.isEmpty_iff]
  exact violations_nil_iff_satisfies schema v

/-- A constant accepts what is equal to it. -/
theorem valid_const {c : Value} : (validate policy (.object [("const", c)]) v).valid = c.equiv v := by
  rw [Bool.eq_iff_iff, validate_valid_iff]
  refine (satisfies_single_iff (k := .const) (by decide)).trans ?_
  simp only [Upholds, at?_single, if_pos, Option.some.injEq, forall_eq', Value.equiv_iff_equalTo]

/-- A list of allowed values accepts what is equal to one of them. -/
theorem valid_enum {allowed : List Value} :
    (validate policy (.object [("enum", .array allowed)]) v).valid = allowed.any fun a => a.equiv v := by
  rw [Bool.eq_iff_iff, validate_valid_iff, List.any_eq_true]
  refine (satisfies_single_iff (k := .enum) (by decide)).trans ?_
  simp only [Upholds, at?_single, if_pos, Option.some.injEq, Value.array.injEq, forall_eq',
    Value.equiv_iff_equalTo]

end Constants

/-! ## Laws -/

/-- **Equality is reflexive and symmetric, and so are the schemas that rest on it.** -/
theorem const_reflexive_symmetric (policy : FormatPolicy) {v w : Value} (hv : v.UniqueNames)
    (hw : w.UniqueNames) :
    v.equiv v = true ∧ v.equiv w = w.equiv v ∧
      (validate policy (.object [("const", v)]) v).valid = true ∧
      (∀ allowed, v ∈ allowed → (validate policy (.object [("enum", .array allowed)]) v).valid = true) ∧
      (validate policy (.object [("const", w)]) v).valid = (validate policy (.object [("const", v)]) w).valid ∧
      ∀ v' w', v.Reordered v' → w.Reordered w' →
        (validate policy (.object [("const", w')]) v').valid =
          (validate policy (.object [("const", w)]) v).valid := by
  have hself : v.equiv v = true := Value.equiv_self hv
  refine ⟨hself, Value.equiv_comm hv hw, valid_const.trans hself, fun allowed hmem => ?_, ?_, ?_⟩
  · rw [valid_enum, List.any_eq_true]
    exact ⟨v, hmem, hself⟩
  · rw [valid_const, valid_const]
    exact Value.equiv_comm hw hv
  · intro v' w' hreorder hreorder'
    rw [valid_const, valid_const, ← Value.equiv_of_reordered hreorder hv,
      Value.equiv_comm (hreorder'.uniqueNames hw) hv, ← Value.equiv_of_reordered hreorder' hw]
    exact Value.equiv_comm hv hw

/-- An object of two members, written in both orders, and with a number in both notations. -/
theorem const_reflexive_symmetric_pair :
    let one : Number := .integer 1 (by decide) (by decide)
    let v : Value := .object [("size", .number one), ("text", .null)]
    let v' : Value := .object [("text", .null), ("size", .number one)]
    let w : Value := .object [("size", .number (.double one.toDouble)), ("text", .null)]
    v.UniqueNames ∧ w.UniqueNames ∧ v.Reordered v' ∧
      v.equiv v = true ∧ v.equiv w = w.equiv v ∧
      (validate ⟨.empty, false⟩ (.object [("const", w)]) v).valid = true ∧
      (validate ⟨.empty, false⟩ (.object [("const", w)]) v').valid = true := by
  intro one v v' w
  have hnames : ∀ n : Number, (Value.object [("size", .number n), ("text", .null)]).UniqueNames := by
    intro n
    simp +contextual [or_imp]
  have hv : v.UniqueNames := hnames one
  have hw : w.UniqueNames := hnames (.double one.toDouble)
  have hreorder : v.Reordered v' := by
    refine .object [("size", .number one, .number one), ("text", .null, .null)] (.refl _) (.swap _ _ _) ?_
    intro r hr
    simp only [List.mem_cons, List.not_mem_nil, or_false] at hr
    rcases hr with rfl | rfl
    · exact .same _
    · exact .same _
  obtain ⟨hself, hcomm, -, -, -, hany⟩ := const_reflexive_symmetric ⟨.empty, false⟩ hv hw
  have haccepted : (validate ⟨.empty, false⟩ (.object [("const", w)]) v).valid = true :=
    valid_const.trans (by decide +kernel)
  exact ⟨hv, hw, hreorder, hself, hcomm, haccepted, (hany v' w hreorder (.same w)).trans haccepted⟩

end JsonSchema
