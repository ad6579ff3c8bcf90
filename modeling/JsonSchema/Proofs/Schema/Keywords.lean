import JsonSchema.Proofs.Json.Equality
import JsonSchema.Proofs.Schema.Counts
import JsonSchema.Proofs.Schema.Walk

/-!
# `JsonSchema.Proofs.Schema.Keywords` — what each keyword asks, apart from how it is checked

The conditions that a schema object puts on one value are stated here on the values of its keywords as
they stand in the schema, not through the functions that validation reads them with: limits by the number
that a value states, bounds by the values of numbers, allowed values by equality as a relation. A keyword
that is missing or has a value of the wrong shape asks nothing.

## Contents
- **Types.** `Value.OfType`, the gate `Rules.GateOpen`, and `opens_iff`.
- **Parts.** `Rules.Declares`, `Governs` (which schema governs which part), `mem_parts_iff`.
- **Keywords.** `lengthKeywords`, and `Upholds`: what a keyword asks of a value, its parts aside.
- **Reports.** `keywordViolations`, `ownViolations_of_open`: the violations of a value keyword by
  keyword, each keyword silent exactly if it is upheld.
-/

namespace JsonSchema

/-! ## Types -/

/-- A number without a fraction, however it is written. -/
def Number.Whole : Number → Prop
  | .integer _ _ _ => True
  | .double x => ∃ k : Nat, x.units = k * Binary64.scale

/-- A value is of the type with a name. No value is of a type with any other name. -/
def Value.OfType (v : Value) (name : String) : Prop :=
  match v with
  | .null => name = "null"
  | .bool _ => name = "boolean"
  | .object _ => name = "object"
  | .array _ => name = "array"
  | .string _ => name = "string"
  | .number n => name = "number" ∨ name = "integer" ∧ n.Whole

theorem Number.isWhole_iff {n : Number} : n.isWhole = true ↔ n.Whole := by
  cases n with
  | integer n low high => exact iff_of_true rfl trivial
  | double x =>
      show (x.units % Binary64.scale == 0) = true ↔ ∃ k : Nat, x.units = k * Binary64.scale
      rw [beq_iff_eq, ← Nat.dvd_iff_mod_eq_zero]
      exact exists_congr fun k => by rw [Nat.mul_comm]

namespace TypeName

@[simp] theorem ofName?_name (t : TypeName) : ofName? t.name = some t := by
  cases t <;> decide

theorem name_of_ofName? {name : String} {t : TypeName} (h : ofName? name = some t) :
    t.name = name := by
  have hfound := List.find?_some h
  exact beq_iff_eq.mp hfound

end TypeName

theorem Value.isOf_iff {v : Value} {t : TypeName} : v.isOf t = true ↔ v.OfType t.name := by
  cases v <;> cases t <;> simp [isOf, OfType, TypeName.name, Number.isWhole_iff]

theorem Value.OfType.exists_name {v : Value} {name : String} (h : v.OfType name) :
    ∃ t : TypeName, t.name = name := by
  unfold OfType at h
  cases v with
  | null => exact ⟨.null, h.symm⟩
  | bool b => exact ⟨.boolean, h.symm⟩
  | object members => exact ⟨.object, h.symm⟩
  | array elements => exact ⟨.array, h.symm⟩
  | string text => exact ⟨.string, h.symm⟩
  | number n =>
      rcases h with h | ⟨h, -⟩
      · exact ⟨.number, h.symm⟩
      · exact ⟨.integer, h.symm⟩

/-- Types by name: what is asked for is what `OfType` says. -/
theorem Value.hasType_iff {v : Value} {name : String} : v.hasType name = true ↔ v.OfType name := by
  unfold hasType
  cases h : TypeName.ofName? name with
  | some t =>
      rw [← TypeName.name_of_ofName? h]
      exact isOf_iff
  | none =>
      -- a name that no type has fits no value
      refine ⟨fun hf => absurd hf (by simp), fun hv => ?_⟩
      obtain ⟨t, rfl⟩ := hv.exists_name
      exact absurd h (by simp)

namespace Rules

variable {rules : Rules} {v : Value}

/-- A type name that the rules ask for: the one that is given, or a string of the list that is. -/
def AsksType (rules : Rules) (name : String) : Prop :=
  rules.at? .type = some (.string name) ∨
    ∃ names, rules.at? .type = some (.array names) ∧ .string name ∈ names

/-- The gate that the type makes: where type names are asked for, the value is of one of them. -/
def GateOpen (rules : Rules) (v : Value) : Prop :=
  (∃ name, rules.AsksType name) → ∃ name, rules.AsksType name ∧ v.OfType name

theorem mem_filterMap_string? {names : List Value} {name : String} :
    name ∈ names.filterMap Value.string? ↔ .string name ∈ names := by
  rw [List.mem_filterMap]
  constructor
  · rintro ⟨v, hv, hs⟩
    cases v <;> cases hs
    exact hv
  · intro h
    exact ⟨.string name, h, rfl⟩

theorem mem_typeNames {name : String} :
    (∃ names, rules.typeNames? = some names ∧ name ∈ names) ↔ rules.AsksType name := by
  unfold typeNames? AsksType
  cases h : rules.at? .type with
  | none => simp
  | some w =>
      cases w with
      | string given => simp [eq_comm]
      | array names => simp [-List.mem_filterMap, mem_filterMap_string?]
      | _ => simp

/-- Validation goes on exactly behind an open gate. -/
theorem opens_iff : rules.opens v = true ↔ rules.GateOpen v := by
  have hmem : ∀ name,
      (∃ names, rules.typeNames? = some names ∧ name ∈ names) ↔ rules.AsksType name :=
    fun _ => mem_typeNames
  unfold opens GateOpen
  cases h : rules.typeNames? with
  | none =>
      refine ⟨fun _ ⟨name, hname⟩ => ?_, fun _ => rfl⟩
      obtain ⟨names, hn, -⟩ := (hmem name).mpr hname
      exact absurd (h ▸ hn) (by simp)
  | some names =>
      have hasks : ∀ name, rules.AsksType name ↔ name ∈ names := by
        intro name
        rw [← hmem name, h]
        simp
      simp only [hasks, Bool.or_eq_true, List.isEmpty_iff, List.any_eq_true, Value.hasType_iff]
      constructor
      · rintro (rfl | hany) ⟨name, hname⟩
        · exact absurd hname List.not_mem_nil
        · exact hany
      · intro hgate
        cases names with
        | nil => exact Or.inl rfl
        | cons name rest => exact Or.inr (hgate ⟨name, List.mem_cons_self⟩)

/-! ## Parts -/

/-- A member name is declared, with the schema that it is declared with. -/
def Declares (rules : Rules) (name : String) (s : Value) : Prop :=
  ∃ declared, rules.at? .properties = some (.object declared) ∧
    Members.get? declared name = some s

theorem property?_eq_some {name : String} {s : Value} :
    rules.property? name = some s ↔ rules.Declares name s := by
  unfold property? properties? Declares
  cases h : rules.at? .properties with
  | none => simp
  | some w => cases w <;> simp [Value.object?]

theorem property?_eq_none {name : String} :
    rules.property? name = none ↔ ∀ s, ¬rules.Declares name s := by
  rw [Option.eq_none_iff_forall_ne_some]
  exact forall_congr' fun s => not_congr property?_eq_some

end Rules

/-- Which schema rules put on which part of a value, the part being a step away. -/
inductive Governs (rules : Rules) : Value → Token → Value → Value → Prop where
  | declared {members : Members} {name : String} {v s : Value} :
      (name, v) ∈ members → rules.Declares name s →
      Governs rules (.object members) (.key name) s v
  | undeclared {members : Members} {name : String} {v : Value} {extra : Members} :
      (name, v) ∈ members → (∀ s, ¬rules.Declares name s) →
      rules.at? .additionalProperties = some (.object extra) →
      Governs rules (.object members) (.key name) (.object extra) v
  | element {elements : List Value} {i : Nat} {v s : Value} :
      elements[i]? = some v → rules.at? .items = some s → s.kind = .object ∨ s.kind = .boolean →
      Governs rules (.array elements) (.index i) s v

theorem Rules.otherSchema?_eq_some {rules : Rules} {s : Value} :
    rules.otherSchema? = some s ↔
      ∃ extra, rules.at? .additionalProperties = some (.object extra) ∧ s = .object extra := by
  unfold otherSchema?
  cases h : rules.at? .additionalProperties with
  | none => simp
  | some w => cases w <;> simp [eq_comm]

theorem Rules.elementSchema?_eq_some {rules : Rules} {s : Value} :
    rules.elementSchema? = some s ↔
      rules.at? .items = some s ∧ (s.kind = .object ∨ s.kind = .boolean) := by
  unfold elementSchema?
  cases h : rules.at? .items with
  | none => simp
  | some w => cases w <;> simp +contextual [Value.kind, eq_comm, iff_def]

/-- The parts that rules look into are those that they govern. -/
theorem mem_rulesParts_iff {rules : Rules} {v : Value} {c : Part} :
    c ∈ rules.parts v ↔ Governs rules v c.token c.schema c.value := by
  obtain ⟨t, s, w⟩ := c
  cases v with
  | object members =>
      rw [mem_parts_object]
      constructor
      · rintro ⟨name, hm, rfl, hs⟩
        unfold Rules.memberSchema? at hs
        cases hp : rules.property? name with
        | some declared =>
            rw [hp] at hs
            obtain rfl := Option.some.inj hs
            exact .declared hm (Rules.property?_eq_some.mp hp)
        | none =>
            rw [hp] at hs
            obtain ⟨extra, hextra, rfl⟩ := Rules.otherSchema?_eq_some.mp hs
            exact .undeclared hm (Rules.property?_eq_none.mp hp) hextra
      · intro hg
        cases hg with
        | declared hm hd =>
            exact ⟨_, hm, rfl, by rw [Rules.memberSchema?, Rules.property?_eq_some.mpr hd]⟩
        | undeclared hm hn hextra =>
            refine ⟨_, hm, rfl, ?_⟩
            rw [Rules.memberSchema?, Rules.property?_eq_none.mpr hn]
            exact Rules.otherSchema?_eq_some.mpr ⟨_, hextra, rfl⟩
  | array elements =>
      rw [mem_parts_array]
      constructor
      · rintro ⟨i, hi, rfl, hs⟩
        obtain ⟨hitems, hkind⟩ := Rules.elementSchema?_eq_some.mp hs
        exact .element hi hitems hkind
      · intro hg
        cases hg with
        | element hi hitems hkind =>
            exact ⟨_, hi, rfl, Rules.elementSchema?_eq_some.mpr ⟨hitems, hkind⟩⟩
  | _ => exact ⟨fun h => absurd h (by simp [Rules.parts]), fun h => by cases h⟩

theorem openRules?_eq_some {schema v : Value} {rules : Rules} :
    openRules? schema v = some rules ↔ schema = .object rules ∧ rules.opens v = true := by
  unfold openRules?
  cases schema with
  | object given =>
      simp only [Option.ite_none_right_eq_some, Option.some.injEq, Value.object.injEq]
      constructor
      · rintro ⟨h, rfl⟩
        exact ⟨rfl, h⟩
      · rintro ⟨rfl, h⟩
        exact ⟨h, rfl⟩
  | _ => simp

/-- **Where the walk goes**: to the parts that a schema object governs, behind an open gate. -/
theorem mem_parts_iff {schema v : Value} {c : Part} :
    c ∈ parts schema v ↔
      ∃ rules, schema = .object rules ∧ Rules.GateOpen rules v ∧
        Governs rules v c.token c.schema c.value := by
  rw [mem_parts]
  refine exists_congr fun rules => ?_
  rw [mem_rulesParts_iff, ← and_assoc]
  refine and_congr_left fun _ => ?_
  rw [openRules?_eq_some, Rules.opens_iff]

theorem Governs.mem_parts {rules : Rules} {v : Value} {t : Token} {s w : Value}
    (h : Governs rules v t s w) (gate : rules.GateOpen v) : ⟨t, s, w⟩ ∈ parts (.object rules) v :=
  mem_parts_iff.mpr ⟨rules, rfl, gate, h⟩

/-! ## Keywords -/

/-- A pattern compiles, and matches the text from some place in it on. -/
def Pattern.MatchesIn (source text : String) : Prop :=
  ∃ p, Pattern.compile? source = some p ∧
    ∃ pos ≤ text.length, p.expr.ways text.toList.toArray ⟨pos, []⟩ ≠ []

/-- A format lets a text through: its checker does, or it has none and need not have one. -/
def FormatPolicy.Admits (policy : FormatPolicy) (format text : String) : Prop :=
  match policy.registry.find? format with
  | some checker => checker text = true
  | none => policy.strict = false

/-- The keywords that limit a length. -/
def lengthKeywords : List Keyword := [.minItems, .maxItems, .minLength, .maxLength]

/-- A keyword sets a limit on a length. -/
def Rules.Limits (rules : Rules) (k : Keyword) (n : Nat) : Prop :=
  ∃ w, rules.at? k = some w ∧ w.LimitsTo n

/-- What a keyword asks of a value, the parts of the value aside. -/
def Upholds (policy : FormatPolicy) (rules : Rules) (v : Value) (k : Keyword) : Prop :=
  match k, v with
  | .enum, v => ∀ allowed, rules.at? .enum = some (.array allowed) → ∃ a ∈ allowed, a.EqualTo v
  | .const, v => ∀ c, rules.at? .const = some c → c.EqualTo v
  | .required, .object members =>
    ∀ names, rules.at? .required = some (.array names) →
      ∀ name, .string name ∈ names → ∃ w, (name, w) ∈ members
  | .additionalProperties, .object members =>
    rules.at? .additionalProperties = some (.bool false) →
      ∀ name w, (name, w) ∈ members → ∃ s, rules.Declares name s
  | .minItems, .array elements =>
    ∀ n, rules.Limits .minItems n → n ≤ elements.length
  | .maxItems, .array elements =>
    ∀ n, rules.Limits .maxItems n → elements.length ≤ n
  | .minLength, .string text =>
    ∀ n, rules.Limits .minLength n → n ≤ text.length
  | .maxLength, .string text =>
    ∀ n, rules.Limits .maxLength n → text.length ≤ n
  | .pattern, .string text =>
    ∀ source, rules.at? .pattern = some (.string source) → Pattern.MatchesIn source text
  | .format, .string text =>
    ∀ format, rules.at? .format = some (.string format) → policy.Admits format text
  | .minimum, .number n => ∀ b, rules.at? .minimum = some (.number b) → ¬n.Below b
  | .maximum, .number n => ∀ b, rules.at? .maximum = some (.number b) → ¬b.Below n
  | .exclusiveMinimum, .number n =>
    ∀ b, rules.at? .exclusiveMinimum = some (.number b) → b.Below n
  | .exclusiveMaximum, .number n =>
    ∀ b, rules.at? .exclusiveMaximum = some (.number b) → n.Below b
  | _, _ => True

/-! ## Reports, keyword by keyword -/

/-- The keywords that a value itself is held to, in the order of their reports. -/
def heldTo : List Keyword :=
  [.enum, .const, .required, .additionalProperties, .minItems, .maxItems, .minLength, .maxLength,
    .pattern, .format, .minimum, .maximum, .exclusiveMinimum, .exclusiveMaximum]

/-- The violation of a keyword by a value itself, seen from the value. -/
def violation (b : Breach) : Violation := .ofBreach [] b

/-- What one keyword reports about a value itself, behind an open gate. -/
def keywordViolations (policy : FormatPolicy) (rules : Rules) (v : Value) (k : Keyword) :
    List Violation :=
  match k, v with
  | .enum, v =>
    (breachOf rules.allowed? (fun values => !values.any fun a => a.equiv v)
      fun _ => .notAllowed (preview v)).map violation
  | .const, v =>
    (breachOf rules.constant? (fun c => !c.equiv v)
      fun c => .notConstant (preview v) (preview c)).map violation
  | .required, .object members =>
    (rules.required.filter fun name => !Members.has members name).map fun name =>
      violation (.missingMember name)
  | .additionalProperties, .object members =>
    if rules.forbidsOthers then
      ((members.map Prod.fst).filter fun name => (rules.property? name).isNone).map fun name =>
        violation (.undeclaredMember name)
    else []
  | .minItems, .array elements =>
    (breachOf (rules.limit? .minItems) (fun l => elements.length < l)
      (.tooFewItems elements.length)).map violation
  | .maxItems, .array elements =>
    (breachOf (rules.limit? .maxItems) (fun l => l < elements.length)
      (.tooManyItems elements.length)).map violation
  | .minLength, .string text =>
    (breachOf (rules.limit? .minLength) (fun l => text.length < l)
      (.tooShort text.length)).map violation
  | .maxLength, .string text =>
    (breachOf (rules.limit? .maxLength) (fun l => l < text.length)
      (.tooLong text.length)).map violation
  | .pattern, .string text =>
    rules.pattern?.toList.filterMap fun source =>
      Finding.judge [] text source (Pattern.compile? source)
  | .format, .string text => (formatBreaches policy rules text).map violation
  | .minimum, .number n =>
    (breachOf (rules.bound? .minimum) (fun b => n.compare b == .lt) (.belowMinimum n)).map violation
  | .maximum, .number n =>
    (breachOf (rules.bound? .maximum) (fun b => n.compare b == .gt) (.aboveMaximum n)).map violation
  | .exclusiveMinimum, .number n =>
    (breachOf (rules.bound? .exclusiveMinimum) (fun b => n.compare b != .gt)
      (.notAboveMinimum n)).map violation
  | .exclusiveMaximum, .number n =>
    (breachOf (rules.bound? .exclusiveMaximum) (fun b => n.compare b != .lt)
      (.notBelowMaximum n)).map violation
  | _, _ => []

theorem filterMap_settle_breach (bs : List Breach) :
    (bs.map (Finding.breach [])).filterMap (Finding.settle Pattern.compile?) = bs.map violation := by
  rw [List.filterMap_map, ← List.filterMap_eq_map]
  rfl

theorem filterMap_settle_test (text : String) (sources : List String) :
    (sources.map fun source => Finding.test [] text source).filterMap
        (Finding.settle Pattern.compile?) =
      sources.filterMap fun source =>
        Finding.judge [] text source (Pattern.compile? source) := by
  rw [List.filterMap_map]
  rfl

/-- **The violations of a value behind an open gate**, keyword by keyword. -/
theorem ownViolations_of_open {policy : FormatPolicy} {rules : Rules} {v : Value}
    (h : rules.opens v = true) :
    ownViolations policy (.object rules) v = heldTo.flatMap (keywordViolations policy rules v) := by
  simp only [ownViolations, ownFindings, if_pos h, List.filterMap_append, filterMap_settle_breach,
    generalBreaches, List.map_append, heldTo, List.flatMap_cons, List.flatMap_nil]
  -- what is left is the kind of the value; the keywords of other kinds are silent by definition
  cases v with
  | object members =>
      rw [kindFindings, filterMap_settle_breach, objectBreaches, List.map_append, List.map_map]
      by_cases hf : rules.forbidsOthers = true
      · simp only [if_pos hf, keywordViolations, List.map_map, List.append_assoc, List.append_nil]
        rfl
      · simp only [if_neg hf, keywordViolations, List.map_nil, List.append_assoc, List.append_nil]
        rfl
  | array elements =>
      rw [kindFindings, filterMap_settle_breach, arrayBreaches, List.map_append]
      simp only [keywordViolations, List.append_assoc, List.append_nil, List.nil_append]
  | string text =>
      simp only [kindFindings, stringFindings, lengthBreaches, List.filterMap_append,
        filterMap_settle_breach, filterMap_settle_test]
      simp only [keywordViolations, List.map_append, List.append_assoc, List.append_nil,
        List.nil_append]
  | number n =>
      rw [kindFindings, filterMap_settle_breach]
      simp only [numberBreaches, keywordViolations, List.map_append, List.append_assoc,
        List.append_nil, List.nil_append]
  | null | bool b =>
      simp only [kindFindings, keywordViolations, List.filterMap_nil, List.append_nil]

/-! ### How the values of keywords are read -/

section Reading

variable {rules : Rules} {o : Option Value}

theorem bind_string?_eq_some {text : String} :
    o.bind Value.string? = some text ↔ o = some (.string text) := by
  cases o with
  | none => simp
  | some w => cases w <;> simp [Value.string?]

theorem bind_array?_eq_some {elements : List Value} :
    o.bind Value.array? = some elements ↔ o = some (.array elements) := by
  cases o with
  | none => simp
  | some w => cases w <;> simp [Value.array?]

theorem bind_number?_eq_some {n : Number} :
    o.bind Value.number? = some n ↔ o = some (.number n) := by
  cases o with
  | none => simp
  | some w => cases w <;> simp [Value.number?]

theorem Rules.limit?_eq_some {k : Keyword} {n : Nat} :
    rules.limit? k = some n ↔ rules.Limits k n :=
  Option.bind_eq_some_iff.trans (exists_congr fun _ => and_congr_right fun _ => count?_eq_some_iff)

theorem Rules.forbidsOthers_iff :
    rules.forbidsOthers = true ↔ rules.at? .additionalProperties = some (.bool false) := by
  unfold forbidsOthers
  cases h : rules.at? .additionalProperties with
  | none => simp
  | some w =>
      cases w with
      | bool b => cases b <;> simp
      | _ => simp

/-- The names of members that have to be there, as they stand in the list. -/
theorem Rules.required_eq {names : List Value} (h : rules.at? .required = some (.array names)) :
    rules.required = names.filterMap Value.string? := by
  rw [required, bind_array?_eq_some.mpr h]
  rfl

theorem Rules.required_eq_nil (h : ∀ names, rules.at? .required ≠ some (.array names)) :
    rules.required = [] := by
  have hnone : (rules.at? .required).bind Value.array? = none :=
    Option.eq_none_iff_forall_ne_some.mpr fun names hn => h names (bind_array?_eq_some.mp hn)
  rw [required, hnone]
  rfl

theorem Rules.mem_required {name : String} :
    name ∈ rules.required ↔
      ∃ names, rules.at? .required = some (.array names) ∧ .string name ∈ names := by
  constructor
  · intro h
    by_cases hlist : ∃ names, rules.at? .required = some (.array names)
    · obtain ⟨names, hn⟩ := hlist
      rw [required_eq hn] at h
      exact ⟨names, hn, mem_filterMap_string?.mp h⟩
    · rw [required_eq_nil fun names hn => hlist ⟨names, hn⟩] at h
      exact absurd h List.not_mem_nil
  · rintro ⟨names, hn, hmem⟩
    rw [required_eq hn]
    exact mem_filterMap_string?.mpr hmem

end Reading

/-! ### A keyword is silent exactly if it is upheld -/

theorem mem_breachOf {α : Type} {limit : Option α} {broken : α → Bool} {b : α → Breach} {x : Breach} :
    x ∈ breachOf limit broken b ↔ ∃ l, limit = some l ∧ broken l = true ∧ x = b l := by
  cases limit with
  | none => simp [breachOf]
  | some l => by_cases h : broken l = true <;> simp [breachOf, breachIf, h]

theorem length_breachOf_le {α : Type} (limit : Option α) (broken : α → Bool) (b : α → Breach) :
    (breachOf limit broken b).length ≤ 1 := by
  cases limit with
  | none => exact Nat.zero_le 1
  | some l => by_cases h : broken l = true <;> simp [breachOf, breachIf, h]

theorem map_breachOf_eq_nil {α : Type} {limit : Option α} {broken : α → Bool} {b : α → Breach} :
    (breachOf limit broken b).map violation = [] ↔ ∀ l, limit = some l → broken l = false := by
  cases limit with
  | none => simp [breachOf]
  | some l => by_cases h : broken l = true <;> simp [breachOf, breachIf, h]

theorem Pattern.found_iff {p : Pattern} {text : String} :
    p.found text = true ↔
      ∃ pos ≤ text.length, p.expr.ways text.toList.toArray ⟨pos, []⟩ ≠ [] := by
  simp only [found, Expr.foundIn, List.any_eq_true, List.mem_range, List.size_toArray,
    String.length_toList, Nat.lt_succ_iff, Bool.not_eq_true', List.isEmpty_eq_false_iff]

theorem judge_eq_none_iff {text source : String} :
    Finding.judge [] text source (Pattern.compile? source) = none ↔
      Pattern.MatchesIn source text := by
  unfold Finding.judge Pattern.MatchesIn
  cases h : Pattern.compile? source with
  | none => simp
  | some p =>
      by_cases hf : p.found text = true
      · simp only [if_pos hf, true_iff]
        exact ⟨p, rfl, Pattern.found_iff.mp hf⟩
      · simp only [if_neg hf, reduceCtorEq, false_iff]
        rintro ⟨q, hq, hmatch⟩
        obtain rfl := Option.some.inj hq
        exact hf (Pattern.found_iff.mpr hmatch)

theorem formatBreaches_eq_nil_iff {policy : FormatPolicy} {rules : Rules} {text : String} :
    formatBreaches policy rules text = [] ↔
      ∀ format, rules.at? .format = some (.string format) → policy.Admits format text := by
  have hread : ∀ format, (rules.at? .format).bind Value.string? = some format ↔
      rules.at? .format = some (.string format) := fun _ => bind_string?_eq_some
  unfold formatBreaches Rules.format?
  cases h : (rules.at? .format).bind Value.string? with
  | none =>
      refine iff_of_true rfl fun format hf => ?_
      exact absurd (h ▸ (hread format).mpr hf) (by simp)
  | some format =>
      have hall : ∀ other, rules.at? .format = some (.string other) ↔ format = other := by
        intro other
        rw [← hread other, h, Option.some_inj]
      simp only [hall, forall_eq', FormatPolicy.Admits, FormatRegistry.check]
      cases policy.registry.find? format with
      | none => cases policy.strict <;> simp [breachIf]
      | some checker => by_cases hc : checker text = true <;> simp [hc]

/-- **A keyword reports nothing exactly if it is upheld.** -/
theorem keywordViolations_eq_nil_iff {policy : FormatPolicy} {rules : Rules} {v : Value}
    {k : Keyword} : keywordViolations policy rules v k = [] ↔ Upholds policy rules v k := by
  unfold keywordViolations Upholds
  -- a case for each keyword with the kind of value it is about, and one for all other pairs
  split
  case h_1 v =>
    rw [map_breachOf_eq_nil]
    refine forall_congr' fun allowed => imp_congr bind_array?_eq_some ?_
    simp only [Bool.not_eq_false', List.any_eq_true, Value.equiv_iff_equalTo]
  case h_2 v =>
    rw [map_breachOf_eq_nil]
    exact forall_congr' fun c => imp_congr_right fun _ => by
      rw [Bool.not_eq_false', Value.equiv_iff_equalTo]
  case h_3 members =>
    simp only [List.map_eq_nil_iff, List.filter_eq_nil_iff, Bool.not_eq_true', Bool.not_eq_false,
      Rules.mem_required, Members.has_iff]
    exact ⟨fun h names hn name hmem => h name ⟨names, hn, hmem⟩,
      fun h name ⟨names, hn, hmem⟩ => h names hn name hmem⟩
  case h_4 members =>
    rw [← Rules.forbidsOthers_iff]
    by_cases hf : rules.forbidsOthers = true
    · simp only [if_pos hf, List.map_eq_nil_iff, List.filter_eq_nil_iff, List.mem_map,
        Option.isNone_iff_eq_none, Rules.property?_eq_none, Prod.exists, not_forall, not_not]
      constructor
      · intro h _ name w hmem
        exact h name ⟨name, w, hmem, rfl⟩
      · rintro h name ⟨_, w, hmem, rfl⟩
        exact h hf _ w hmem
    · simp [hf]
  case h_5 elements =>
    simp only [map_breachOf_eq_nil, Rules.limit?_eq_some, decide_eq_false_iff_not, Nat.not_lt]
  case h_6 elements =>
    simp only [map_breachOf_eq_nil, Rules.limit?_eq_some, decide_eq_false_iff_not, Nat.not_lt]
  case h_7 text =>
    simp only [map_breachOf_eq_nil, Rules.limit?_eq_some, decide_eq_false_iff_not, Nat.not_lt]
  case h_8 text =>
    simp only [map_breachOf_eq_nil, Rules.limit?_eq_some, decide_eq_false_iff_not, Nat.not_lt]
  case h_9 text =>
    simp only [List.filterMap_eq_nil_iff, Option.mem_toList, judge_eq_none_iff, Rules.pattern?,
      bind_string?_eq_some]
  case h_10 text =>
    rw [List.map_eq_nil_iff, formatBreaches_eq_nil_iff]
  case h_11 n =>
    simp only [map_breachOf_eq_nil, Rules.bound?, bind_number?_eq_some, beq_eq_false_iff_ne, ne_eq,
      Number.compare_lt_iff_below]
  case h_12 n =>
    simp only [map_breachOf_eq_nil, Rules.bound?, bind_number?_eq_some, beq_eq_false_iff_ne, ne_eq,
      Number.compare_gt_iff_below]
  case h_13 n =>
    simp only [map_breachOf_eq_nil, Rules.bound?, bind_number?_eq_some, bne_eq_false_iff_eq,
      Number.compare_gt_iff_below]
  case h_14 n =>
    simp only [map_breachOf_eq_nil, Rules.bound?, bind_number?_eq_some, bne_eq_false_iff_eq,
      Number.compare_lt_iff_below]
  case h_15 => simp

/-! ### What a report says of itself -/

theorem of_mem_map_breachOf {α : Type} {limit : Option α} {broken : α → Bool} {b : α → Breach}
    {e : Violation} {name : String} (he : e ∈ (breachOf limit broken b).map violation)
    (hname : ∀ l, (b l).keyword = name) : e.path = [] ∧ e.keyword = name := by
  obtain ⟨x, hx, rfl⟩ := List.mem_map.mp he
  obtain ⟨l, -, -, rfl⟩ := mem_breachOf.mp hx
  exact ⟨rfl, hname l⟩

theorem of_judge_eq_some {text source : String} {compiled : Option Pattern} {e : Violation}
    (h : Finding.judge [] text source compiled = some e) :
    e.path = [] ∧ e.keyword = Keyword.pattern.name := by
  unfold Finding.judge at h
  split at h
  · obtain rfl := Option.some.inj h
    exact ⟨rfl, rfl⟩
  · split at h
    · cases h
    · obtain rfl := Option.some.inj h
      exact ⟨rfl, rfl⟩

theorem keyword_of_mem_formatBreaches {policy : FormatPolicy} {rules : Rules} {text : String}
    {b : Breach} (h : b ∈ formatBreaches policy rules text) : b.keyword = Keyword.format.name := by
  unfold formatBreaches at h
  split at h
  · exact absurd h List.not_mem_nil
  · split at h
    · exact absurd h List.not_mem_nil
    · rw [List.mem_singleton.mp h]
      rfl
    · unfold breachIf at h
      split at h
      · rw [List.mem_singleton.mp h]
        rfl
      · exact absurd h List.not_mem_nil

/-- What a keyword reports about a value itself is placed at the value and names the keyword. -/
theorem of_mem_keywordViolations {policy : FormatPolicy} {rules : Rules} {v : Value} {k : Keyword}
    {e : Violation} (he : e ∈ keywordViolations policy rules v k) :
    e.path = [] ∧ e.keyword = k.name := by
  unfold keywordViolations at he
  split at he
  case h_3 members =>
    obtain ⟨name, -, rfl⟩ := List.mem_map.mp he
    exact ⟨rfl, rfl⟩
  case h_4 members =>
    split at he
    · obtain ⟨name, -, rfl⟩ := List.mem_map.mp he
      exact ⟨rfl, rfl⟩
    · exact absurd he List.not_mem_nil
  case h_9 text =>
    obtain ⟨source, -, hjudge⟩ := List.mem_filterMap.mp he
    exact of_judge_eq_some hjudge
  case h_10 text =>
    obtain ⟨b, hb, rfl⟩ := List.mem_map.mp he
    exact ⟨rfl, keyword_of_mem_formatBreaches hb⟩
  case h_15 => exact absurd he List.not_mem_nil
  all_goals exact of_mem_map_breachOf he fun _ => rfl

/-- But for missing and undeclared members, a keyword is reported once at most. -/
theorem length_keywordViolations_le {policy : FormatPolicy} {rules : Rules} {v : Value} {k : Keyword}
    (hr : k ≠ .required) (ha : k ≠ .additionalProperties) :
    (keywordViolations policy rules v k).length ≤ 1 := by
  unfold keywordViolations
  split
  case h_3 => exact absurd rfl hr
  case h_4 => exact absurd rfl ha
  case h_9 text =>
    refine Nat.le_trans (List.length_filterMap_le _ _) ?_
    cases rules.pattern? with
    | none => exact Nat.zero_le 1
    | some source => exact Nat.le_refl 1
  case h_10 text =>
    rw [List.length_map]
    unfold formatBreaches
    split
    · exact Nat.zero_le 1
    · split
      · exact Nat.zero_le 1
      · exact Nat.le_refl 1
      · cases policy.strict <;> simp [breachIf]
  case h_15 => exact Nat.zero_le 1
  all_goals
    rw [List.length_map]
    exact length_breachOf_le _ _ _

section Filter

variable {policy : FormatPolicy} {rules : Rules} {v : Value}

theorem filter_keywordViolations (j k : Keyword) :
    (keywordViolations policy rules v j).filter (fun e => e.keyword = k.name) =
      if j = k then keywordViolations policy rules v j else [] := by
  by_cases hjk : j = k
  · rw [if_pos hjk, List.filter_eq_self]
    intro e he
    rw [(of_mem_keywordViolations he).2, hjk]
    exact decide_eq_true rfl
  · rw [if_neg hjk, List.filter_eq_nil_iff]
    intro e he
    rw [(of_mem_keywordViolations he).2, decide_eq_true_iff]
    exact fun hname => hjk (Keyword.name_injective hname)

theorem filter_flatMap_keywordViolations {l : List Keyword} (hl : l.Nodup) (k : Keyword) :
    (l.flatMap (keywordViolations policy rules v)).filter (fun e => e.keyword = k.name) =
      if k ∈ l then keywordViolations policy rules v k else [] := by
  induction l with
  | nil => rfl
  | cons j rest ih =>
      obtain ⟨hj, hrest⟩ := List.nodup_cons.mp hl
      rw [List.flatMap_cons, List.filter_append, filter_keywordViolations, ih hrest]
      by_cases hjk : j = k
      · subst hjk
        rw [if_pos rfl, if_neg hj, if_pos List.mem_cons_self, List.append_nil]
      · have hmem : k ∈ j :: rest ↔ k ∈ rest := by simp [Ne.symm hjk]
        rw [if_neg hjk, List.nil_append]
        simp only [hmem]

/-- **Sorted by keyword, the violations of a value are the reports of its keywords.** -/
theorem filter_ownViolations (h : rules.opens v = true) (k : Keyword) :
    (ownViolations policy (.object rules) v).filter (fun e => e.keyword = k.name) =
      keywordViolations policy rules v k := by
  rw [ownViolations_of_open h, filter_flatMap_keywordViolations (by decide)]
  -- a keyword that no value itself is held to reports nothing
  cases k <;> first | exact if_pos (by decide) | (rw [if_neg (by decide)]; rfl)

/-- A value behind an open gate is without violations of its own exactly if every keyword is
upheld. -/
theorem ownViolations_eq_nil_iff (h : rules.opens v = true) :
    ownViolations policy (.object rules) v = [] ↔ ∀ k, Upholds policy rules v k := by
  constructor
  · intro hnil k
    rw [← keywordViolations_eq_nil_iff, ← filter_ownViolations h, hnil, List.filter_nil]
  · intro hall
    rw [ownViolations_of_open h, List.flatMap_eq_nil_iff]
    exact fun k _ => keywordViolations_eq_nil_iff.mpr (hall k)

end Filter

/-- Behind a closed gate the type is reported. -/
theorem ownViolations_of_closed {policy : FormatPolicy} {rules : Rules} {v : Value}
    (h : ¬rules.opens v = true) :
    ownViolations policy (.object rules) v =
      [violation (.wrongType (rules.typeNames?.getD []) v.kind)] := by
  simp only [ownViolations, ownFindings, if_neg h]
  rfl

/-- All violations of a value itself are placed at the value. -/
theorem path_of_mem_ownViolations {policy : FormatPolicy} {schema v : Value} {e : Violation}
    (he : e ∈ ownViolations policy schema v) : e.path = [] := by
  cases schema with
  | object rules =>
      by_cases h : Rules.opens rules v = true
      · rw [ownViolations_of_open h] at he
        obtain ⟨k, -, hk⟩ := List.mem_flatMap.mp he
        exact (of_mem_keywordViolations hk).1
      · simp only [ownViolations, ownFindings, if_neg h] at he
        rw [List.mem_singleton.mp he]
        rfl
  | bool b =>
      cases b with
      | true => exact absurd he List.not_mem_nil
      | false => rw [List.mem_singleton.mp he]; rfl
  | _ => exact absurd he List.not_mem_nil

end JsonSchema
