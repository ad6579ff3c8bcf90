import JsonSchema.Proofs.Audit.Subschemas

/-!
# `JsonSchema.Proofs.Audit.Strictness` — a schema whose formats and patterns pass the audit

Strict and lenient validation differ in formats without a checker alone, and a pattern that is none fails
every text. Where the audit warns of neither, no document brings either to light: what the audit has
looked at is all that validation comes to.

## Contents
- **Places.** `compiles_of_reaches`, `has_of_reaches`: what the audit vouches for, at each place.
- **Wording.** `message_ne_patternUnusable`, `message_ne_formatUnknown`: no other breach reads the same.
- **Verdicts.** Main statement `strict_eq_lenient_of_audit`.
-/

namespace JsonSchema

variable {formats : FormatRegistry} {schema v u : Value} {path : Path} {rules : Rules}

/-! ## Places -/

/-- A pattern that validation comes to compiles if the audit warns of no pattern. -/
theorem compiles_of_reaches
    (hpattern : ∀ w ∈ audit formats schema, ∀ source, w.flaw ≠ .invalidPattern source)
    (h : Reaches schema v path (.object rules) u) {source : String}
    (hat : rules.at? .pattern = some (.string source)) :
    ∃ p, Pattern.compile? source = some p := by
  cases hcompile : Pattern.compile? source with
  | some p => exact ⟨p, rfl⟩
  | none =>
      have hflaw : flaw? formats .pattern (.string source) = some (.invalidPattern source) := by
        simp [flaw?, hcompile]
      obtain ⟨place, hwarned⟩ := audit_of_reaches h (warned_of_flaw hat hflaw)
      exact absurd rfl (hpattern _ hwarned source)

/-- A format that validation comes to has a checker if the audit warns of no format. -/
theorem has_of_reaches (hformat : ∀ w ∈ audit formats schema, w.kind ≠ .unknownFormat)
    (h : Reaches schema v path (.object rules) u) {format : String}
    (hat : rules.at? .format = some (.string format)) : formats.has format = true := by
  by_contra hhas
  have hflaw : flaw? formats .format (.string format) = some (.unknownFormat format) := by
    simp [flaw?, hhas]
  obtain ⟨place, hwarned⟩ := audit_of_reaches h (warned_of_flaw hat hflaw)
  exact absurd rfl (hformat _ hwarned)

/-- Where the format has a checker, it does not matter whether validation is strict. -/
theorem formatBreaches_eq_of_has (strict strict' : Bool) {text : String}
    (h : ∀ format, rules.at? .format = some (.string format) → formats.has format = true) :
    formatBreaches ⟨formats, strict⟩ rules text = formatBreaches ⟨formats, strict'⟩ rules text := by
  unfold formatBreaches
  cases hf : rules.format? with
  | none => rfl
  | some format =>
      have hhas := h format (bind_string?_eq_some.mp hf)
      obtain ⟨checker, hfound⟩ := Option.isSome_iff_exists.mp hhas
      simp only [FormatRegistry.check, hfound]
      by_cases hc : checker text = true <;> simp [hc]

theorem ownViolations_eq_of_has (strict strict' : Bool) {s : Value}
    (h : ∀ own : Rules, s = .object own → ∀ format, own.at? .format = some (.string format) →
      formats.has format = true) :
    ownViolations ⟨formats, strict⟩ s u = ownViolations ⟨formats, strict'⟩ s u := by
  cases s with
  | object own =>
      by_cases hopen : Rules.opens own u = true
      · rw [ownViolations_of_open hopen, ownViolations_of_open hopen]
        refine List.flatMap_congr fun k _ => ?_
        unfold keywordViolations
        -- the format of a text is the only report that asks for the policy
        split
        case h_10 text => rw [formatBreaches_eq_of_has strict strict' (h own rfl)]
        all_goals rfl
      · rw [ownViolations_of_closed hopen, ownViolations_of_closed hopen]
  | bool b => cases b <;> rfl
  | _ => rfl

/-! ## Wording -/

/-- What a value itself violates about a keyword, the type aside, is a report of that keyword. -/
theorem mem_keywordViolations_of_mem_own {policy : FormatPolicy} {s : Value} {e : Violation}
    {k : Keyword} (he : e ∈ ownViolations policy s u) (hkeyword : e.keyword = k.name)
    (hk : k ≠ .type) :
    ∃ own, s = .object own ∧ e ∈ keywordViolations policy own u k := by
  cases s with
  | object own =>
      refine ⟨own, rfl, ?_⟩
      by_cases hopen : Rules.opens own u = true
      · rw [← filter_ownViolations hopen]
        exact List.mem_filter.mpr ⟨he, decide_eq_true hkeyword⟩
      · rw [ownViolations_of_closed hopen, List.mem_singleton] at he
        rw [he] at hkeyword
        have htype : Keyword.type.name = k.name := hkeyword
        exact absurd (Keyword.name_injective htype).symm hk
  | bool b =>
      cases b with
      | true => exact absurd he List.not_mem_nil
      | false =>
          rw [List.mem_singleton.mp he] at hkeyword
          cases k <;> exact absurd hkeyword (by decide)
  | _ => exact absurd he List.not_mem_nil

/-- A report of the pattern is what the pattern says of the text. -/
theorem judge_of_mem_pattern {policy : FormatPolicy} {e : Violation}
    (he : e ∈ keywordViolations policy rules u .pattern) :
    ∃ text source, rules.at? .pattern = some (.string source) ∧
      Finding.judge [] text source (Pattern.compile? source) = some e := by
  cases u with
  | string text =>
      obtain ⟨source, hsource, hjudge⟩ := List.mem_filterMap.mp he
      exact ⟨text, source, bind_string?_eq_some.mp (Option.mem_toList.mp hsource), hjudge⟩
  | _ => exact absurd he List.not_mem_nil

/-- A report of the format is made by the breaches of the format. -/
theorem breach_of_mem_format {policy : FormatPolicy} {e : Violation}
    (he : e ∈ keywordViolations policy rules u .format) :
    ∃ text, ∃ b ∈ formatBreaches policy rules text, violation b = e := by
  cases u with
  | string text => exact ⟨text, List.mem_map.mp he⟩
  | _ => exact absurd he List.not_mem_nil

theorem message_ne_patternUnusable (text pattern source : String) :
    (Breach.patternMismatch text pattern).message ≠ (Breach.patternUnusable source).message := by
  have hmismatch : (Breach.patternMismatch text pattern).message.toList.head? = some '"' := by
    show ("\"" ++ text ++ "\" does not match pattern \"" ++ pattern ++ "\"").toList.head? = some '"'
    simp [String.toList_append]
  have hunusable : (Breach.patternUnusable source).message.toList.head? = some 'p' := by
    show ("pattern \"" ++ source ++ "\" cannot be applied: <reason>").toList.head? = some 'p'
    simp [String.toList_append]
  intro h
  rw [h, hunusable] at hmismatch
  exact absurd hmismatch (by decide)

theorem message_ne_formatUnknown (text format name : String) :
    (Breach.formatMismatch text format).message ≠ (Breach.formatUnknown name).message := by
  have hmismatch : (Breach.formatMismatch text format).message.toList.head? = some '"' := by
    show ("\"" ++ text ++ "\" is not a valid " ++ format).toList.head? = some '"'
    simp [String.toList_append]
  have hunknown : (Breach.formatUnknown name).message.toList.head? = some 'u' := by
    show ("unknown format \"" ++ name ++ "\"").toList.head? = some 'u'
    simp [String.toList_append]
  intro h
  rw [h, hunknown] at hmismatch
  exact absurd hmismatch (by decide)

/-- What a value itself violates does not say that a pattern that compiles is unusable. -/
theorem ne_patternUnusable_of_compiles {policy : FormatPolicy} {s : Value} {e : Violation}
    (he : e ∈ ownViolations policy s u)
    (hcompiles : ∀ own : Rules, s = .object own → ∀ source, own.at? .pattern = some (.string source) →
      ∃ p, Pattern.compile? source = some p) (source : String) :
    e ≠ violation (.patternUnusable source) := by
  rintro rfl
  obtain ⟨own, hs, hmem⟩ := mem_keywordViolations_of_mem_own he (k := .pattern) rfl (by decide)
  obtain ⟨text, written, hat, hjudge⟩ := judge_of_mem_pattern hmem
  obtain ⟨p, hp⟩ := hcompiles own hs written hat
  rw [hp] at hjudge
  unfold Finding.judge at hjudge
  split at hjudge
  case h_1 => contradiction
  case h_2 q hq =>
    split at hjudge
    · cases hjudge
    · have hmessage := congrArg Violation.message (Option.some.inj hjudge)
      exact message_ne_patternUnusable text written source hmessage

/-- What a value itself violates does not say that a format with a checker is unknown. -/
theorem ne_formatUnknown_of_has {strict : Bool} {s : Value} {e : Violation}
    (he : e ∈ ownViolations ⟨formats, strict⟩ s u)
    (hhas : ∀ own : Rules, s = .object own → ∀ format, own.at? .format = some (.string format) →
      formats.has format = true) (name : String) :
    e ≠ violation (.formatUnknown name) := by
  rintro rfl
  obtain ⟨own, hs, hmem⟩ := mem_keywordViolations_of_mem_own he (k := .format) rfl (by decide)
  obtain ⟨text, b, hb, hviolation⟩ := breach_of_mem_format hmem
  -- strict or not, the breaches are those of lenient validation, which knows no unknown formats
  rw [formatBreaches_eq_of_has strict false (hhas own hs)] at hb
  unfold formatBreaches at hb
  split at hb
  case h_1 => exact absurd hb List.not_mem_nil
  case h_2 format _ =>
    split at hb
    case h_1 => exact absurd hb List.not_mem_nil
    case h_2 =>
      rw [List.mem_singleton.mp hb] at hviolation
      exact message_ne_formatUnknown text format name (congrArg Violation.message hviolation)
    case h_3 => exact absurd hb List.not_mem_nil

/-! ## Verdicts -/

/-- **Strict and lenient verdicts are one** on a schema that the audit finds without an unknown format
and without an invalid pattern, whatever the validators have judged before; and no violation says that a
pattern cannot be applied or that a format is unknown. -/
theorem strict_eq_lenient_of_audit (formats : FormatRegistry) (schema : Value)
    (hformat : ∀ w ∈ audit formats schema, w.kind ≠ .unknownFormat)
    (hpattern : ∀ w ∈ audit formats schema, ∀ source, w.flaw ≠ .invalidPattern source)
    (calls calls' : List (Value × Value)) (document : Value) :
    let strict := ((Validator.after ⟨formats, true⟩ calls).validate schema document).1
    let lenient := ((Validator.after ⟨formats, false⟩ calls').validate schema document).1
    strict = lenient ∧
      ∀ e ∈ strict.violations, ∀ text,
        e ≠ .ofBreach e.path (.patternUnusable text) ∧ e ≠ .ofBreach e.path (.formatUnknown text) := by
  simp only [Validator.validate_after]
  constructor
  · refine congrArg Verdict.mk (violations_congr fun path s u hreach => ?_)
    refine ownViolations_eq_of_has true false fun own hs format hat => ?_
    subst hs
    exact has_of_reaches hformat hreach hat
  · intro e he text
    obtain ⟨s, u, hreach, own, hown, hunder⟩ := own_of_mem he
    -- seen from its place, a violation is worded as it is further up
    have hlocal : ∀ b, e = .ofBreach e.path b → own = violation b := by
      intro b heq
      have hroot : own.path = [] := path_of_mem_ownViolations hown
      have hkeyword : own.keyword = b.keyword := congrArg Violation.keyword (hunder.trans heq)
      have hmessage : own.message = b.message := congrArg Violation.message (hunder.trans heq)
      show (⟨own.path, own.keyword, own.message⟩ : Violation) = ⟨[], b.keyword, b.message⟩
      rw [hroot, hkeyword, hmessage]
    constructor
    · intro heq
      refine ne_patternUnusable_of_compiles hown (fun rules hs source hat => ?_) text (hlocal _ heq)
      subst hs
      exact compiles_of_reaches hpattern hreach hat
    · intro heq
      refine ne_formatUnknown_of_has hown (fun rules hs format hat => ?_) text (hlocal _ heq)
      subst hs
      exact has_of_reaches hformat hreach hat

/-- Checkers for one format: texts of even length. -/
def evenFormats : FormatRegistry := ⟨[("even", fun text => text.length % 2 == 0)]⟩

/-- A schema for tickets: a code with a pattern and a format, and a keyword that is not understood. -/
def ticketSchema : Value :=
  .object
    [("properties", .object
      [("code", .object [("pattern", .string "^T"), ("format", .string "even")])]),
      ("readOnly", .bool true)]

theorem audit_ticketSchema :
    audit evenFormats ticketSchema = [⟨[], "readOnly", .unrecognized⟩] := by
  decide +kernel

theorem strict_eq_lenient_of_audit_ticket :
    (∀ w ∈ audit evenFormats ticketSchema, w.kind ≠ .unknownFormat) ∧
      (∀ w ∈ audit evenFormats ticketSchema, ∀ source, w.flaw ≠ .invalidPattern source) ∧
      let document : Value := .object [("code", .string "X-1")]
      let strict := ((Validator.after ⟨evenFormats, true⟩ []).validate ticketSchema document).1
      let lenient := ((Validator.after ⟨evenFormats, false⟩ []).validate ticketSchema document).1
      strict = lenient ∧
        ∀ e ∈ strict.violations, ∀ text,
          e ≠ .ofBreach e.path (.patternUnusable text) ∧
            e ≠ .ofBreach e.path (.formatUnknown text) := by
  have hformat : ∀ w ∈ audit evenFormats ticketSchema, w.kind ≠ .unknownFormat := by
    simp [audit_ticketSchema, Warning.kind, Flaw.kind]
  have hpattern : ∀ w ∈ audit evenFormats ticketSchema, ∀ source, w.flaw ≠ .invalidPattern source := by
    simp [audit_ticketSchema]
  exact ⟨hformat, hpattern,
    strict_eq_lenient_of_audit evenFormats ticketSchema hformat hpattern [] [] _⟩

end JsonSchema
