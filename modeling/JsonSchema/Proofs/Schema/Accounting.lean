import JsonSchema.Proofs.Schema.Places

/-!
# `JsonSchema.Proofs.Schema.Accounting` — every violation is reported, and none twice

At each place of a document the verdict holds exactly what the schema of that place finds wrong with the
value there: one report for each keyword that is not upheld, one for each missing and each undeclared
member, and nothing else. At places where validation does not come it holds nothing.

## Contents
- **Names.** `missingNames`, `undeclaredNames`: what `required` and `additionalProperties` count.
- **Accounts.** `KeywordAccount`, `Account`: the reports that belong at one place.
- **Verdicts.** `filter_path_of_reaches`, and the main statement `account_of_path`.
-/

namespace JsonSchema

/-! ## Names -/

/-- The names that `required` lists and the value lacks, as often as they are listed. -/
def missingNames (rules : Rules) (v : Value) : List String :=
  match v, rules.at? .required with
  | .object members, some (.array names) =>
    (names.filterMap Value.string?).filter fun name => name ∉ members.map Prod.fst
  | _, _ => []

/-- The names that `properties` lists. -/
def declaredNames (rules : Rules) : List String :=
  match rules.at? .properties with
  | some (.object declared) => declared.map Prod.fst
  | _ => []

/-- The names of members that are not declared, where `additionalProperties` forbids them. -/
def undeclaredNames (rules : Rules) (v : Value) : List String :=
  match v, rules.at? .additionalProperties with
  | .object members, some (.bool false) =>
    (members.map Prod.fst).filter fun name => name ∉ declaredNames rules
  | _, _ => []

theorem mem_map_fst {members : Members} {name : String} :
    name ∈ members.map Prod.fst ↔ ∃ w, (name, w) ∈ members := by
  simp

theorem not_has_eq (members : Members) (name : String) :
    (!members.has name) = decide (name ∉ members.map Prod.fst) := by
  rw [Bool.eq_iff_iff, Bool.not_eq_true', Bool.eq_false_iff, decide_eq_true_iff, mem_map_fst]
  exact not_congr Members.has_iff

theorem isNone_property?_eq (rules : Rules) (name : String) :
    (rules.property? name).isNone = decide (name ∉ declaredNames rules) := by
  unfold Rules.property? Rules.properties? declaredNames
  cases rules.at? .properties with
  | none => simp
  | some w =>
      cases w with
      | object declared =>
          rw [Bool.eq_iff_iff, Option.isNone_iff_eq_none, decide_eq_true_iff, mem_map_fst, not_exists]
          exact Members.get?_eq_none_iff
      | _ => simp [Value.object?]

section Keywords

variable {policy : FormatPolicy} {rules : Rules}

theorem missingNames_eq_nil {v : Value} (h : ∀ names, rules.at? .required ≠ some (.array names)) :
    missingNames rules v = [] := by
  unfold missingNames
  split
  case h_1 names hn => exact absurd hn (h names)
  case h_2 => rfl

theorem keywordViolations_required (v : Value) :
    keywordViolations policy rules v .required =
      (missingNames rules v).map fun name => violation (.missingMember name) := by
  cases v with
  | object members =>
      simp only [keywordViolations]
      by_cases hlist : ∃ names, rules.at? .required = some (.array names)
      · obtain ⟨names, hn⟩ := hlist
        simp only [Rules.required_eq hn, missingNames, hn, not_has_eq]
      · have hnone : ∀ names, rules.at? .required ≠ some (.array names) :=
          fun names hn => hlist ⟨names, hn⟩
        rw [Rules.required_eq_nil hnone, missingNames_eq_nil hnone]
        rfl
  | _ => rfl

theorem keywordViolations_additional (v : Value) :
    keywordViolations policy rules v .additionalProperties =
      (undeclaredNames rules v).map fun name => violation (.undeclaredMember name) := by
  cases v with
  | object members =>
      simp only [keywordViolations]
      by_cases hf : rules.forbidsOthers = true
      · simp only [if_pos hf, undeclaredNames, Rules.forbidsOthers_iff.mp hf, isNone_property?_eq]
      · rw [if_neg hf]
        unfold undeclaredNames
        split
        case h_1 hv hfalse => exact absurd (Rules.forbidsOthers_iff.mpr hfalse) hf
        case h_2 => rfl
  | _ => rfl

end Keywords

/-! ## Accounts -/

/-- The keywords that are reported once at most. -/
def reportedOnce : List Keyword :=
  [.enum, .const, .minItems, .maxItems, .minLength, .maxLength, .pattern, .format, .minimum,
    .maximum, .exclusiveMinimum, .exclusiveMaximum]

/-- The reports about a value whose type lets it through to the other keywords. -/
structure KeywordAccount (policy : FormatPolicy) (rules : Rules) (v : Value) (path : Path)
    (reports : List Violation) : Prop where
  upheld : ∀ k ∈ reportedOnce, Upholds policy rules v k →
    reports.filter (fun e => e.keyword = k.name) = []
  broken : ∀ k ∈ reportedOnce, ¬Upholds policy rules v k →
    ∃ message, reports.filter (fun e => e.keyword = k.name) = [⟨path, k.name, message⟩]
  missing : reports.filter (fun e => e.keyword = "required") =
    (missingNames rules v).map fun name =>
      ⟨path, "required", "missing required property \"" ++ name ++ "\""⟩
  undeclared : reports.filter (fun e => e.keyword = "additionalProperties") =
    (undeclaredNames rules v).map fun name =>
      ⟨path, "additionalProperties", "additional property \"" ++ name ++ "\" is not allowed"⟩
  noOther : ∀ e ∈ reports, e.keyword = "required" ∨ e.keyword = "additionalProperties" ∨
    ∃ k ∈ reportedOnce, e.keyword = k.name

/-- **The reports that belong at a place**, where a value stands under a schema. -/
inductive Account (policy : FormatPolicy) (path : Path) : Value → Value → List Violation → Prop where
  | nothing {schema v : Value} (notFalse : schema ≠ .bool false)
      (notObject : ∀ rules, schema ≠ .object rules) : Account policy path schema v []
  | forbidden {v : Value} :
      Account policy path (.bool false) v [⟨path, "false", "no value is allowed here"⟩]
  | wrongType {rules : Rules} {v : Value} {message : String} (closed : ¬rules.GateOpen v) :
      Account policy path (.object rules) v [⟨path, "type", message⟩]
  | keywords {rules : Rules} {v : Value} {reports : List Violation} (opened : rules.GateOpen v)
      (each : KeywordAccount policy rules v path reports) :
      Account policy path (.object rules) v reports

section Account

variable {policy : FormatPolicy} {rules : Rules} {v : Value}

theorem filter_map_under (path : Path) (es : List Violation) (name : String) :
    (es.map (Violation.under path)).filter (fun e => e.keyword = name) =
      (es.filter fun e => e.keyword = name).map (Violation.under path) := by
  rw [List.filter_map]
  rfl

theorem ne_of_mem_reportedOnce {k : Keyword} (hk : k ∈ reportedOnce) :
    k ≠ .required ∧ k ≠ .additionalProperties := by
  constructor <;> rintro rfl <;> exact absurd hk (by decide)

/-- A keyword that is reported once at most and is not upheld is reported once. -/
theorem keywordViolations_eq_singleton {k : Keyword} (hk : k ∈ reportedOnce)
    (hbroken : ¬Upholds policy rules v k) :
    ∃ message, keywordViolations policy rules v k = [⟨[], k.name, message⟩] := by
  obtain ⟨hr, ha⟩ := ne_of_mem_reportedOnce hk
  have hle : (keywordViolations policy rules v k).length ≤ 1 :=
    length_keywordViolations_le hr ha
  have hne : keywordViolations policy rules v k ≠ [] :=
    fun hnil => hbroken (keywordViolations_eq_nil_iff.mp hnil)
  obtain ⟨e, he⟩ := List.length_eq_one_iff.mp
    (Nat.le_antisymm hle (List.length_pos_iff.mpr hne))
  have hmem : e ∈ keywordViolations policy rules v k := he ▸ List.mem_singleton_self e
  obtain ⟨hpath, hkeyword⟩ := of_mem_keywordViolations hmem
  refine ⟨e.message, ?_⟩
  rw [he, ← hpath, ← hkeyword]

/-- A keyword that a value itself is held to makes one report at most, but for the two that speak of
members. -/
theorem reportedOnce_of_mem_heldTo {k : Keyword} (hk : k ∈ heldTo) :
    k = .required ∨ k = .additionalProperties ∨ k ∈ reportedOnce := by
  have hall : ∀ k ∈ heldTo, k = .required ∨ k = .additionalProperties ∨ k ∈ reportedOnce := by
    decide
  exact hall k hk

theorem map_under_violation {α : Type} (path : Path) (b : α → Breach) (l : List α) :
    (l.map fun a => violation (b a)).map (Violation.under path) =
      l.map fun a => Violation.ofBreach path (b a) := by
  rw [List.map_map]
  refine List.map_congr_left fun a _ => ?_
  rw [Function.comp_apply, Violation.under, violation, Violation.ofBreach, List.append_nil]
  rfl

/-- The violations of a value behind an open gate are accounted for keyword by keyword. -/
theorem keywordAccount_own (hopen : rules.opens v = true) (path : Path) :
    KeywordAccount policy rules v path
      ((ownViolations policy (.object rules) v).map (Violation.under path)) := by
  -- what the account asks of a keyword is asked of the reports of that keyword
  have hfilter : ∀ k : Keyword,
      ((ownViolations policy (.object rules) v).map (Violation.under path)).filter
          (fun e => e.keyword = k.name) =
        (keywordViolations policy rules v k).map (Violation.under path) := by
    intro k
    rw [filter_map_under, filter_ownViolations hopen]
  constructor
  case upheld =>
    intro k _ hup
    rw [hfilter, keywordViolations_eq_nil_iff.mpr hup, List.map_nil]
  case broken =>
    intro k hk hbroken
    obtain ⟨message, hone⟩ := keywordViolations_eq_singleton hk hbroken
    refine ⟨message, ?_⟩
    rw [hfilter, hone, List.map_singleton, Violation.under, List.append_nil]
  case missing =>
    have hrequired := hfilter .required
    rw [keywordViolations_required, map_under_violation] at hrequired
    exact hrequired
  case undeclared =>
    have hadditional := hfilter .additionalProperties
    rw [keywordViolations_additional, map_under_violation] at hadditional
    exact hadditional
  case noOther =>
    intro e he
    obtain ⟨f, hf, rfl⟩ := List.mem_map.mp he
    rw [ownViolations_of_open hopen] at hf
    obtain ⟨k, hk, hmem⟩ := List.mem_flatMap.mp hf
    rw [Violation.keyword_under, (of_mem_keywordViolations hmem).2]
    rcases reportedOnce_of_mem_heldTo hk with rfl | rfl | honce
    · exact Or.inl rfl
    · exact Or.inr (Or.inl rfl)
    · exact Or.inr (Or.inr ⟨k, honce, rfl⟩)

/-- What a schema finds wrong with a value itself is what belongs at its place. -/
theorem account_own (schema v : Value) (path : Path) :
    Account policy path schema v ((ownViolations policy schema v).map (Violation.under path)) := by
  cases schema with
  | object rules =>
      by_cases hopen : Rules.opens rules v = true
      · exact .keywords (Rules.opens_iff.mp hopen) (keywordAccount_own hopen path)
      · rw [ownViolations_of_closed hopen, List.map_singleton]
        show Account policy path (.object rules) v [⟨path ++ [], "type", _⟩]
        rw [List.append_nil]
        exact .wrongType fun hgate => hopen (Rules.opens_iff.mpr hgate)
  | bool b =>
      cases b with
      | true => exact .nothing (by simp) (by simp)
      | false =>
          show Account policy path (.bool false) v [⟨path ++ [], "false", "no value is allowed here"⟩]
          rw [List.append_nil]
          exact .forbidden
  | null | number n | string text | array elements => exact .nothing (by simp) (by simp)

end Account

/-! ## Verdicts -/

section Verdicts

variable {policy : FormatPolicy} {schema v s w : Value} {path : Path}

/-- The violations at the root are those of the document itself. -/
theorem filter_path_nil :
    (validate policy schema v).violations.filter (fun e => e.path = []) =
      ownViolations policy schema v := by
  rw [violations_eq, List.filter_append]
  have hown : (ownViolations policy schema v).filter (fun e => e.path = []) =
      ownViolations policy schema v :=
    List.filter_eq_self.mpr fun e he => decide_eq_true (path_of_mem_ownViolations he)
  rw [hown, List.append_right_eq_self, List.filter_eq_nil_iff]
  intro e he hpath
  obtain ⟨c, -, hmem⟩ := List.mem_flatMap.mp he
  obtain ⟨f, -, rfl⟩ := List.mem_map.mp hmem
  exact absurd (decide_eq_true_iff.mp hpath) (by simp)

/-- The violations at a place inside a part are those that the part has at the rest of the place. -/
theorem filter_path_cons (hv : v.UniqueNames) {c : Part} (hc : c ∈ parts schema v) (path : Path) :
    (validate policy schema v).violations.filter (fun e => e.path = c.token :: path) =
      ((validate policy c.schema c.value).violations.filter fun e => e.path = path).map
        (Violation.under [c.token]) := by
  obtain ⟨before, after, hsplit, hout⟩ := @violations_of_part policy schema v hv c hc
  have hnone : ∀ es : List Violation, (∀ e ∈ es, e ∈ before ++ after) →
      es.filter (fun e => e.path = c.token :: path) = [] := by
    intro es hes
    rw [List.filter_eq_nil_iff]
    exact fun e he hpath => hout e (hes e he) path (decide_eq_true_iff.mp hpath)
  rw [hsplit, List.filter_append, List.filter_append,
    hnone before fun e he => List.mem_append_left _ he,
    hnone after fun e he => List.mem_append_right _ he,
    List.nil_append, List.append_nil, List.filter_map]
  congr 1
  refine List.filter_congr fun e _ => ?_
  simp

/-- **The violations at a place that is reached** are what the schema there finds wrong with the value
there, its parts aside. -/
theorem filter_path_of_reaches (hv : v.UniqueNames) (h : Reaches schema v path s w) :
    (validate policy schema v).violations.filter (fun e => e.path = path) =
      (ownViolations policy s w).map (Violation.under path) := by
  induction h with
  | here => rw [filter_path_nil, Violation.map_under_nil]
  | @step rules v t s w path s' w' gate governs rest ih =>
      have hc : ⟨t, s, w⟩ ∈ parts (.object rules) v := governs.mem_parts gate
      rw [filter_path_cons hv hc, ih (uniqueNames_of_mem_parts hv hc), List.map_map]
      refine List.map_congr_left fun e _ => ?_
      exact Violation.under_under [t] path e

/-- **Every violation is accounted for**: at a place that validation reaches the verdict holds the
reports that belong there, at any other place it holds none. -/
theorem account_of_path (policy : FormatPolicy) (calls : List (Value × Value)) (schema : Value)
    (hv : v.UniqueNames) (path : Path) :
    let reports := ((Validator.after policy calls).validate schema v).1.violations.filter
      fun e => e.path = path
    (∀ s w, Reaches schema v path s w → Account policy path s w reports) ∧
      ((∀ s w, ¬Reaches schema v path s w) → reports = []) := by
  simp only [Validator.validate_after]
  constructor
  · intro s w h
    rw [filter_path_of_reaches hv h]
    exact account_own s w path
  · intro hnone
    rw [List.filter_eq_nil_iff]
    intro e he hpath
    obtain ⟨s, w, h⟩ := reaches_of_mem he
    rw [decide_eq_true_iff.mp hpath] at h
    exact hnone s w h

theorem account_of_path_second_line :
    orderDocument.UniqueNames ∧
      Reaches orderSchema orderDocument [.key "lines", .index 1]
        (.object [("type", .string "integer")]) (.string "two") ∧
      Account ⟨.empty, false⟩ [.key "lines", .index 1]
        (.object [("type", .string "integer")]) (.string "two")
        (((Validator.after ⟨.empty, false⟩ []).validate orderSchema
          orderDocument).1.violations.filter fun e => e.path = [.key "lines", .index 1]) :=
  ⟨orderDocument_uniqueNames, reaches_second_line,
    (account_of_path ⟨.empty, false⟩ [] orderSchema orderDocument_uniqueNames
      [.key "lines", .index 1]).1 _ _ reaches_second_line⟩

end Verdicts

end JsonSchema
