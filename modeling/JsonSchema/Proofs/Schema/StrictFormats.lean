import JsonSchema.Proofs.Audit.Strictness

/-!
# `JsonSchema.Proofs.Schema.StrictFormats` — strictness reports unknown formats and changes nothing else

Strict validation asks one thing more than lenient validation: that a format has a checker. The lenient
verdict is therefore the strict one without the reports that a format is unknown. These are told from all
others by keyword and message, although messages quote documents, and a document may hold any text: a format
that does not fit is reported by a message that begins with a quotation mark, and so never reads like a
report of an unknown one.

## Contents
- **Wording.** `Violation.NamesUnknownFormat`, which can be decided.
- **One value.** `keywordViolations_of_ne_format`, `formatViolations_lenient`, `ownViolations_lenient`: what
  is reported of a value itself, with and without strictness.
- **Verdicts.** `violations_lenient`, and the main statement `lenient_eq_filter_strict`.
-/

namespace JsonSchema

variable {formats : FormatRegistry} {rules : Rules} {schema v : Value}

/-! ## Wording -/

/-- The violation says that some format is unknown. -/
def Violation.NamesUnknownFormat (e : Violation) : Prop :=
  e.keyword = "format" ∧ ∃ name : String, e.message = "unknown format \"" ++ name ++ "\""

namespace Violation

/-- The text that stands where a report of an unknown format has the name. -/
def quotedName (message : String) : String :=
  String.ofList ((message.toList.drop "unknown format \"".length).dropLast)

theorem quotedName_message (name : String) :
    quotedName ("unknown format \"" ++ name ++ "\"") = name := by
  have hrest : ("unknown format \"" ++ name ++ "\"").toList.drop "unknown format \"".length =
      name.toList ++ ['"'] := by
    rw [String.toList_append, String.toList_append, List.append_assoc, String.length, List.drop_left]
    rfl
  rw [quotedName, hrest, List.dropLast_concat, String.ofList_toList]

theorem namesUnknownFormat_iff {e : Violation} :
    e.NamesUnknownFormat ↔
      e.keyword = "format" ∧ e.message = "unknown format \"" ++ quotedName e.message ++ "\"" := by
  refine and_congr_right fun _ => ⟨?_, fun h => ⟨_, h⟩⟩
  rintro ⟨name, hname⟩
  rw [hname, quotedName_message]

instance (e : Violation) : Decidable e.NamesUnknownFormat := decidable_of_iff' _ namesUnknownFormat_iff

end Violation

/-- A report of a keyword other than `format` does not name an unknown format. -/
theorem not_namesUnknownFormat {e : Violation} {k : Keyword} (hkeyword : e.keyword = k.name)
    (hk : k ≠ .format) : ¬e.NamesUnknownFormat := by
  rintro ⟨hformat, -⟩
  have hname : k.name = Keyword.format.name := hkeyword.symm.trans hformat
  exact hk (Keyword.name_injective hname)

/-- The reports that lenient validation keeps. -/
abbrev kept (es : List Violation) : List Violation := es.filter fun e => ¬e.NamesUnknownFormat

theorem kept_of_keyword {es : List Violation} {k : Keyword} (hk : k ≠ .format)
    (h : ∀ e ∈ es, e.keyword = k.name) : kept es = es := by
  rw [kept, List.filter_eq_self]
  intro e he
  exact decide_eq_true (not_namesUnknownFormat (h e he) hk)

theorem kept_under (path : Path) (es : List Violation) :
    kept (es.map (Violation.under path)) = (kept es).map (Violation.under path) := by
  rw [kept, List.filter_map]
  rfl

/-! ## One value -/

/-- Only the format asks for the policy. -/
theorem keywordViolations_of_ne_format (policy policy' : FormatPolicy) {k : Keyword} (hk : k ≠ .format) :
    keywordViolations policy rules v k = keywordViolations policy' rules v k := by
  unfold keywordViolations
  split
  case h_10 => exact absurd rfl hk
  all_goals rfl

/-- What is reported of the format of a text: strictness adds the unknown ones. -/
theorem formatViolations_lenient (text : String) :
    (formatBreaches ⟨formats, false⟩ rules text).map violation =
      kept ((formatBreaches ⟨formats, true⟩ rules text).map violation) := by
  unfold formatBreaches
  cases rules.format? with
  | none => rfl
  | some format =>
      simp only
      cases formats.check format text with
      | valid => rfl
      | invalid =>
          -- the message quotes the text first, so that it is no report of an unknown format
          have hother : ¬(violation (.formatMismatch text format)).NamesUnknownFormat := by
            rintro ⟨-, name, hname⟩
            exact message_ne_formatUnknown text format name hname
          simp [hother]
      | unknown =>
          have hunknown : (violation (.formatUnknown format)).NamesUnknownFormat := ⟨rfl, format, rfl⟩
          simp [breachIf, hunknown]

theorem keywordViolations_lenient (k : Keyword) :
    keywordViolations ⟨formats, false⟩ rules v k =
      kept (keywordViolations ⟨formats, true⟩ rules v k) := by
  by_cases hk : k = .format
  · subst hk
    cases v with
    | string text => exact formatViolations_lenient text
    | _ => rfl
  · rw [kept_of_keyword hk fun e he => (of_mem_keywordViolations he).2]
    exact keywordViolations_of_ne_format _ _ hk

/-- **What is reported of a value itself** leniently is what is kept of the strict reports. -/
theorem ownViolations_lenient :
    ownViolations ⟨formats, false⟩ schema v = kept (ownViolations ⟨formats, true⟩ schema v) := by
  cases schema with
  | object rules =>
      by_cases hopen : Rules.opens rules v = true
      · rw [ownViolations_of_open hopen, ownViolations_of_open hopen, kept, List.filter_flatMap]
        exact List.flatMap_congr fun k _ => keywordViolations_lenient k
      · rw [ownViolations_of_closed hopen, ownViolations_of_closed hopen]
        refine (kept_of_keyword (k := .type) (by decide) fun e he => ?_).symm
        rw [List.mem_singleton.mp he]
        rfl
  | bool b =>
      cases b with
      | true => rfl
      | false => rfl
  | _ => rfl

/-! ## Verdicts -/

/-- The same of all that is reported of a document. -/
theorem violations_lenient (formats : FormatRegistry) (schema v : Value) :
    (validate ⟨formats, false⟩ schema v).violations =
      kept (validate ⟨formats, true⟩ schema v).violations := by
  induction schema, v using parts_induction with
  | step schema v ih =>
      rw [violations_eq, violations_eq, ownViolations_lenient, kept, kept, List.filter_append,
        List.filter_flatMap]
      congr 1
      refine List.flatMap_congr fun c hc => ?_
      rw [ih c hc]
      exact (kept_under [c.token] _).symm

/-- **Strictness adds reports of unknown formats and nothing else**: the lenient verdict is the strict one
without them, all others standing in their order with their places and messages, whatever the validators
have judged before. So a document that is valid strictly is valid leniently. -/
theorem lenient_eq_filter_strict (formats : FormatRegistry) (calls calls' : List (Value × Value))
    (schema document : Value) :
    let strict := ((Validator.after ⟨formats, true⟩ calls).validate schema document).1
    let lenient := ((Validator.after ⟨formats, false⟩ calls').validate schema document).1
    lenient.violations = strict.violations.filter (fun e => ¬e.NamesUnknownFormat) ∧
      (strict.valid = true → lenient.valid = true) := by
  simp only [Validator.validate_after]
  have hfilter := violations_lenient formats schema document
  refine ⟨hfilter, fun hvalid => ?_⟩
  rw [Verdict.valid, List.isEmpty_iff] at hvalid ⊢
  rw [hfilter, hvalid]
  rfl

/-- A text that quotes a report of an unknown format does not have the format `even`, and a second text has
one that is unknown. -/
theorem lenient_eq_filter_strict_quoted :
    let schema : Value := .object [("properties", .object
      [("note", .object [("format", .string "even")]), ("date", .object [("format", .string "day")])])]
    let document : Value := .object [("note", .string "unknown format \"xy\""), ("date", .string "today")]
    let strict := ((Validator.after ⟨evenFormats, true⟩ []).validate schema document).1
    let lenient := ((Validator.after ⟨evenFormats, false⟩ []).validate schema document).1
    strict.violations =
        [⟨[.key "note"], "format", "\"unknown format \"xy\"\" is not a valid even"⟩,
          ⟨[.key "date"], "format", "unknown format \"day\""⟩] ∧
      lenient.violations =
        [⟨[.key "note"], "format", "\"unknown format \"xy\"\" is not a valid even"⟩] ∧
      (strict.valid = true → lenient.valid = true) := by
  intro schema document strict lenient
  obtain ⟨hfilter, hvalid⟩ := lenient_eq_filter_strict evenFormats [] [] schema document
  have hstrict : strict.violations =
      [⟨[.key "note"], "format", "\"unknown format \"xy\"\" is not a valid even"⟩,
        ⟨[.key "date"], "format", "unknown format \"day\""⟩] := by decide +kernel
  refine ⟨hstrict, hfilter.trans ?_, hvalid⟩
  rw [hstrict]
  decide +kernel

end JsonSchema
