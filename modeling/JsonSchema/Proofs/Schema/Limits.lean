import JsonSchema.Proofs.Audit.Places
import JsonSchema.Proofs.Schema.Accounting

/-!
# `JsonSchema.Proofs.Schema.Limits` — limits on lengths are read as they are stated, up to the largest one

A limit is enforced, shown in messages and warned of as it is read: for the number that its value states, and
in one case for the number before it.

## Contents
- **Reports.** `limitReports`, `map_under_limit` and `reportsAt_of_reaches`: what a limit makes of the value
  at a place.
- **Warnings.** `mem_audit_limit_iff`. Main statement `limits_as_read`.
- **Gap.** `limit_cut_down`: the one value that is read as another one.
-/

namespace JsonSchema

/-! ## Reports -/

/-- What a limit makes of the value at a place: a report with the length and the limit in it where the length
is on the wrong side, and nothing of a value without this length. -/
def limitReports (path : Path) (w : Value) (k : Keyword) (n : Nat) : List Violation :=
  match k, w with
  | .minItems, .array elements =>
    if elements.length < n then
      [⟨path, "minItems", "array has " ++ toString elements.length ++
        " item(s), fewer than the minimum of " ++ toString n⟩]
    else []
  | .maxItems, .array elements =>
    if n < elements.length then
      [⟨path, "maxItems", "array has " ++ toString elements.length ++
        " item(s), more than the maximum of " ++ toString n⟩]
    else []
  | .minLength, .string text =>
    if text.length < n then
      [⟨path, "minLength", "string length " ++ toString text.length ++
        " is less than minLength " ++ toString n⟩]
    else []
  | .maxLength, .string text =>
    if n < text.length then
      [⟨path, "maxLength", "string length " ++ toString text.length ++
        " is greater than maxLength " ++ toString n⟩]
    else []
  | _, _ => []

section Reports

variable {policy : FormatPolicy} {schema document w : Value} {rules : Rules} {path : Path} {k : Keyword}

/-- A limit that is not set makes no report; one that is set makes its own where it is broken. -/
theorem map_under_breachOf {α : Type} (limit : Option α) (broken : α → Prop) [DecidablePred broken]
    (b : α → Breach) :
    ((breachOf limit (fun l => broken l) b).map violation).map (Violation.under path) =
      limit.elim [] fun l => if broken l then [.ofBreach path (b l)] else [] := by
  rw [map_under_violation]
  cases limit with
  | none => rfl
  | some l => simp [breachOf, breachIf, apply_ite]

/-- **What a limit reports**, put at the place of the value. -/
theorem map_under_limit (hk : k ∈ lengthKeywords) :
    (keywordViolations policy rules w k).map (Violation.under path) =
      (rules.limit? k).elim [] (limitReports path w k) := by
  -- a value without the length is not looked at, whatever the limit
  have hother : [] = (rules.limit? k).elim [] fun _ => ([] : List Violation) := by
    cases rules.limit? k <;> rfl
  simp only [lengthKeywords, List.mem_cons, List.not_mem_nil, or_false] at hk
  rcases hk with rfl | rfl | rfl | rfl
  · cases w with
    | array elements => exact map_under_breachOf _ _ _
    | _ => exact hother
  · cases w with
    | array elements => exact map_under_breachOf _ _ _
    | _ => exact hother
  · cases w with
    | string text => exact map_under_breachOf _ _ _
    | _ => exact hother
  · cases w with
    | string text => exact map_under_breachOf _ _ _
    | _ => exact hother

/-- The violations of one keyword at one place. -/
def Verdict.reportsAt (verdict : Verdict) (path : Path) (k : Keyword) : List Violation :=
  verdict.violations.filter fun e => e.path = path ∧ e.keyword = k.name

/-- **What is reported of a keyword at a place that is reached** behind an open gate. -/
theorem reportsAt_of_reaches (hd : document.UniqueNames)
    (hreach : Reaches schema document path (.object rules) w) (hgate : rules.GateOpen w) :
    (validate policy schema document).reportsAt path k =
      (keywordViolations policy rules w k).map (Violation.under path) := by
  have hboth : (validate policy schema document).reportsAt path k =
      ((validate policy schema document).violations.filter fun e => e.path = path).filter
        fun e => e.keyword = k.name := by
    rw [List.filter_filter, Verdict.reportsAt]
    exact List.filter_congr fun e _ => by rw [Bool.and_comm, Bool.decide_and]
  rw [hboth, filter_path_of_reaches hd hreach, filter_map_under,
    filter_ownViolations (Rules.opens_iff.mpr hgate)]

end Reports

/-! ## Warnings -/

section Warnings

variable {formats : FormatRegistry} {schema x : Value} {rules : Rules} {path : Path} {k : Keyword} {f : Flaw}

theorem flaw?_limit (hk : k ∈ lengthKeywords) :
    flaw? formats k x = mustHold x.count?.isSome "a non-negative integer" := by
  simp only [lengthKeywords, List.mem_cons, List.not_mem_nil, or_false] at hk
  rcases hk with rfl | rfl | rfl | rfl <;> rfl

/-- **Which limits are warned of**: the values that are not read as a limit, each with the same words. -/
theorem mem_audit_limit_iff (hs : schema.UniqueNames) (hplace : SchemaPlace schema path rules)
    (hk : k ∈ lengthKeywords) (hx : rules.at? k = some x) :
    (⟨path, k.name, f⟩ : Warning) ∈ audit formats schema ↔
      f = .mustBe "a non-negative integer" ∧ ∀ n, ¬x.LimitsTo n := by
  have hflaw : memberFlaw? formats k.name x = some f ↔
      f = .mustBe "a non-negative integer" ∧ ∀ n, ¬x.LimitsTo n := by
    rw [memberFlaw?, Keyword.ofName?_name]
    show flaw? formats k x = some f ↔ _
    rw [flaw?_limit hk, mustHold_eq_some_iff, Option.isSome_eq_false_iff, Option.isNone_iff_eq_none,
      count?_eq_none_iff, and_comm, eq_comm]
  rw [← hflaw, mem_audit_iff]
  constructor
  · rintro ⟨own, hown, y, hy, hyflaw⟩
    obtain rfl := hplace.unique hs hown
    -- names are unique, so that the keyword has one value
    have hnames := (Value.uniqueNames_object.mp (hplace.uniqueNames hs)).1
    obtain rfl : y = x := Option.some.inj ((Members.get?_of_mem hnames hy).symm.trans hx)
    exact hyflaw
  · exact fun hmember => ⟨rules, hplace, x, Members.mem_of_get? hx, hmember⟩

/-- **Limits on lengths are enforced, shown and warned of as they are read**, and they are read exactly, but
for the value 2⁶⁴, which is read as the number before it. Wherever validation comes behind an open gate,
each of the four keywords reports what its limit makes of the value there, with the limit in the message, and
reports nothing where its value is read as no limit. Wherever the audit comes, those values, and no others,
are warned of. -/
theorem limits_as_read (policy : FormatPolicy) (calls : List (Value × Value)) {schema document : Value}
    (hs : schema.UniqueNames) (hd : document.UniqueNames) :
    (∀ v : Value, (∀ n, v.count? = some n ↔ v.LimitsTo n) ∧
      ((∀ n, v.count? = some n ↔ n ≤ 2 ^ 64 - 1 ∧ v.States n) ↔ ¬v.States (2 ^ 64))) ∧
    (∀ path (rules : Rules) w, Reaches schema document path (.object rules) w → rules.GateOpen w →
      ∀ k ∈ lengthKeywords, ∀ x : Value, rules.at? k = some x →
        let reports := ((Validator.after policy calls).validate schema document).1.reportsAt path k
        (∀ n, x.LimitsTo n → reports = limitReports path w k n) ∧
          ((∀ n, ¬x.LimitsTo n) → reports = [])) ∧
    ∀ path (rules : Rules), SchemaPlace schema path rules →
      ∀ k ∈ lengthKeywords, ∀ x : Value, rules.at? k = some x → ∀ formats f,
        (⟨path, k.name, f⟩ : Warning) ∈ audit formats schema ↔
          f = .mustBe "a non-negative integer" ∧ ∀ n, ¬x.LimitsTo n := by
  refine ⟨fun v => ⟨fun n => count?_eq_some_iff, count?_exact_iff⟩, ?_,
    fun path rules hplace k hk x hx formats f => mem_audit_limit_iff hs hplace hk hx⟩
  simp only [Validator.validate_after]
  intro path rules w hreach hgate k hk x hx
  have hread : rules.limit? k = x.count? := by rw [Rules.limit?, hx, Option.bind_some]
  rw [reportsAt_of_reaches hd hreach hgate, map_under_limit hk, hread]
  constructor
  · intro n hn
    rw [count?_eq_some_iff.mpr hn]
    rfl
  · intro hno
    rw [count?_eq_none_iff.mpr hno]
    rfl

end Warnings

/-- The double that is nearest to an integer, as a value. -/
def wholeDouble (n : Int) (low : -2 ^ 63 ≤ n) (high : n < 2 ^ 64) : Value :=
  .number (.double (Number.integer n low high).toDouble)

/-- What number plates have to be: a limit that is a double, and a value that is no limit. -/
def plateRules : Rules :=
  [("minLength", wholeDouble 3 (by decide) (by decide)),
    ("maxLength", .number (.integer (-1) (by decide) (by decide)))]

def plateSchema : Value :=
  .object [("properties", .object [("plates", .object [("items", .object plateRules)])])]

def plateDocument : Value := .object [("plates", .array [.string "ab", .string "abc"])]

theorem limits_as_read_plates :
    plateSchema.UniqueNames ∧ plateDocument.UniqueNames ∧
      (let verdict := ((Validator.after ⟨.empty, false⟩ []).validate plateSchema plateDocument).1
      verdict.reportsAt [.key "plates", .index 0] .minLength =
          [⟨[.key "plates", .index 0], "minLength", "string length 2 is less than minLength 3"⟩] ∧
        verdict.reportsAt [.key "plates", .index 1] .minLength = [] ∧
        verdict.reportsAt [.key "plates", .index 0] .maxLength = []) ∧
      ⟨[.key "properties", .key "plates", .key "items"], "maxLength", .mustBe "a non-negative integer"⟩ ∈
        audit .empty plateSchema := by
  have hs : plateSchema.UniqueNames := by
    simp [plateSchema, plateRules, wholeDouble, or_imp, forall_and]
  have hd : plateDocument.UniqueNames := by
    simp [plateDocument]
  obtain ⟨-, hreports, hwarnings⟩ := limits_as_read ⟨.empty, false⟩ [] hs hd
  have hreach : ∀ i text, [Value.string "ab", .string "abc"][i]? = some (.string text) →
      Reaches plateSchema plateDocument [.key "plates", .index i] (.object plateRules) (.string text) :=
    fun i text hi => .step (Rules.opens_iff.mp rfl) (.declared List.mem_cons_self ⟨_, rfl, rfl⟩)
      (.step (Rules.opens_iff.mp rfl) (.element hi rfl (.inl rfl)) .here)
  have hat := fun i text hi => hreports _ _ _ (hreach i text hi) (Rules.opens_iff.mp rfl)
  have hplace : SchemaPlace plateSchema [.key "properties", .key "plates", .key "items"] plateRules :=
    .declared rfl List.mem_cons_self (.keyword (k := .items) (by decide) rfl .here)
  have hthree : (wholeDouble 3 (by decide) (by decide)).LimitsTo 3 :=
    .inl ⟨by decide, _, rfl, Number.rounded_eq_value (Number.hasDouble_integer (by decide))⟩
  have hnegative : ∀ n, ¬(Value.number (.integer (-1) (by decide) (by decide))).LimitsTo n :=
    count?_eq_none_iff.mp rfl
  refine ⟨hs, hd, ⟨?_, ?_, ?_⟩, ?_⟩
  · exact (hat 0 "ab" rfl .minLength (by decide) _ rfl).1 3 hthree
  · exact (hat 1 "abc" rfl .minLength (by decide) _ rfl).1 3 hthree
  · exact (hat 0 "ab" rfl .maxLength (by decide) _ rfl).2 hnegative
  · exact (hwarnings _ _ hplace .maxLength (by decide) _ rfl .empty _).mpr ⟨rfl, hnegative⟩

/-- The double 2⁶⁴ is read as 2⁶⁴ − 1: the audit says nothing about it, and the empty text is told of a limit
that the schema does not state. -/
theorem limit_cut_down :
    let beyond := wholeDouble (2 ^ 64 - 1) (by decide) (by decide)
    let schema : Value := .object [("minLength", beyond)]
    beyond.States (2 ^ 64) ∧ beyond.count? = some (2 ^ 64 - 1) ∧
      (¬∀ n, beyond.count? = some n ↔ n ≤ 2 ^ 64 - 1 ∧ beyond.States n) ∧
      audit .empty schema = [] ∧
      ((Validator.after ⟨.empty, false⟩ []).validate schema (.string "")).1.violations =
        [⟨[], "minLength", "string length 0 is less than minLength 18446744073709551615"⟩] := by
  intro beyond schema
  have hcount : beyond.count? = some (2 ^ 64 - 1) := by decide +kernel
  have hstates : beyond.States (2 ^ 64) := states_double_iff.mpr (by decide +kernel)
  refine ⟨hstates, hcount, fun hexact => count?_exact_iff.mp hexact hstates, by decide +kernel, ?_⟩
  rw [Validator.validate_after]
  decide +kernel

end JsonSchema
