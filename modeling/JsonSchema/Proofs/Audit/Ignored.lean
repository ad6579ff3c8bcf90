import JsonSchema.Proofs.Audit.Subschemas
import JsonSchema.Proofs.Json.Without
import JsonSchema.Proofs.Schema.ReadAlike

/-!
# `JsonSchema.Proofs.Audit.Ignored` — what the audit calls ignored is ignored

Most warnings tell of a member that validation passes over: a name that is no keyword, a format without a
checker, a value that the keyword cannot use. Taking all of these members out of the schema, wherever
they stand in it, changes no verdict. Three warnings tell of members that do have an effect: those about
`type`, about `required`, and about a pattern that is a text but not a pattern.

## Contents
- **Idle values.** `Idle`, `Warning.tellsIgnored`, and `idle_of_flaw`.
- **Taking out.** `ignoredAt`, `Value.withoutIgnored`, and how they go down into subschemas.
- **Verdicts.** `readAlike_without`, and the main statement `validate_withoutIgnored`.
-/

namespace JsonSchema

/-! ## Idle values -/

/-- A value that a keyword has no use for: with it the keyword does what it does when it is missing, as
far as lenient validation goes. -/
def Idle (formats : FormatRegistry) : Keyword → Value → Prop
  | .enum, x => x.array? = none
  | .properties, x => x.object? = none
  | .additionalProperties, x | .items, x => x.kind ≠ .object ∧ x.kind ≠ .boolean
  | .minItems, x | .maxItems, x | .minLength, x | .maxLength, x => x.count? = none
  | .minimum, x | .maximum, x | .exclusiveMinimum, x | .exclusiveMaximum, x => x.number? = none
  | .pattern, x => x.string? = none
  | .format, x => ∀ name, x.string? = some name → formats.has name = false
  | .type, _ | .const, _ | .required, _ => False
  | _, _ => True

/-- Whether a flaw is that of a pattern that is a text. -/
def Flaw.isInvalidPattern : Flaw → Bool
  | .invalidPattern _ => true
  | _ => false

/-- Whether a warning tells of a member that is ignored: a name that is no keyword, a format that is not
known, or a value that cannot be used, `type`, `required` and a pattern that is a text aside. -/
def Warning.tellsIgnored (w : Warning) : Bool :=
  match w.kind with
  | .unrecognizedKeyword | .unknownFormat => true
  | .malformedKeyword =>
    w.keyword != Keyword.type.name && w.keyword != Keyword.required.name && !w.flaw.isInvalidPattern

theorem kind_of_typeNameFlaw {names : List Value} {f : Flaw} (h : typeNameFlaw? names = some f) :
    f.kind = .malformedKeyword := by
  induction names with
  | nil => cases h
  | cons v rest ih =>
      cases v with
      | string name =>
          rw [typeNameFlaw?] at h
          split at h
          · exact ih h
          · cases h
            rfl
      | _ =>
          cases h
          rfl

/-- Every flaw of a type is that of a value of the wrong shape. -/
theorem kind_of_flaw_type {formats : FormatRegistry} {x : Value} {f : Flaw}
    (h : flaw? formats .type x = some f) : f.kind = .malformedKeyword := by
  cases x with
  | string name => exact kind_of_typeNameFlaw h
  | array names => exact kind_of_typeNameFlaw h
  | _ =>
      cases h
      rfl

theorem kind_of_flaw_required {formats : FormatRegistry} {x : Value} {f : Flaw}
    (h : flaw? formats .required x = some f) : f.kind = .malformedKeyword := by
  cases x with
  | array names =>
      obtain ⟨-, rfl⟩ := mustHold_eq_some_iff.mp h
      rfl
  | _ =>
      cases h
      rfl

/-- A keyword whose value is warned of as ignored has no use for the value. -/
theorem idle_of_flaw {formats : FormatRegistry} {path : Path} {k : Keyword} {x : Value} {f : Flaw}
    (hflaw : flaw? formats k x = some f)
    (hignored : Warning.tellsIgnored ⟨path, k.name, f⟩ = true) : Idle formats k x := by
  cases k with
  | type => simp [Warning.tellsIgnored, Warning.kind, kind_of_flaw_type hflaw] at hignored
  | required => simp [Warning.tellsIgnored, Warning.kind, kind_of_flaw_required hflaw] at hignored
  | enum | properties | minItems | maxItems | minLength | maxLength | minimum | maximum
  | exclusiveMinimum | exclusiveMaximum =>
      obtain ⟨hnone, -⟩ := mustHold_eq_some_iff.mp hflaw
      exact Option.isNone_iff_eq_none.mp (Option.isSome_eq_false_iff.mp hnone)
  | additionalProperties | items =>
      cases x with
      | bool b => cases hflaw
      | object members => cases hflaw
      | _ => exact ⟨by simp [Value.kind], by simp [Value.kind]⟩
  | pattern =>
      cases x with
      | string source =>
          -- a text is warned of only if it is no pattern, and then it is not ignored
          have hsome : (if (Pattern.compile? source).isSome then none
            else some (Flaw.invalidPattern source)) = some f := hflaw
          split at hsome <;> cases hsome
          simp [Warning.tellsIgnored, Warning.kind, Flaw.kind, Flaw.isInvalidPattern] at hignored
      | _ => rfl
  | format =>
      intro name hname
      cases x with
      | string given =>
          cases hname
          have hsome : (if formats.has name then none else some (Flaw.unknownFormat name)) = some f :=
            hflaw
          split at hsome
          · cases hsome
          case isFalse hhas => exact Bool.eq_false_iff.mpr hhas
      | _ => cases hname
  | const | schemaUri | id | comment | title | description | default | examples => cases hflaw

/-! ## Taking out -/

/-- Whether a warning tells that the member of a name, in the schema object at a path, is ignored. -/
def ignoredAt (formats : FormatRegistry) (schema : Value) (path : Path) (name : String) : Bool :=
  (audit formats schema).any fun w =>
    w.tellsIgnored && decide (w.path = path) && decide (w.keyword = name)

/-- A schema without the members that its audit calls ignored. -/
def Value.withoutIgnored (formats : FormatRegistry) (schema : Value) : Value :=
  schema.without (ignoredAt formats schema)

variable {formats : FormatRegistry} {rules : Rules} {path : Path} {name : String}

theorem ignoredAt_iff {schema : Value} :
    ignoredAt formats schema path name = true ↔
      ∃ w ∈ audit formats schema, w.tellsIgnored = true ∧ w.path = path ∧ w.keyword = name := by
  simp only [ignoredAt, List.any_eq_true, Bool.and_eq_true, decide_eq_true_eq, and_assoc]

/-- What is ignored among the members of a schema object is a flawed member. -/
theorem ignoredAt_nil (h : ignoredAt formats (.object rules) [] name = true) :
    ∃ x f, (name, x) ∈ rules ∧ memberFlaw? formats name x = some f ∧
      Warning.tellsIgnored ⟨[], name, f⟩ = true := by
  obtain ⟨w, hw, hignored, hpath, rfl⟩ := ignoredAt_iff.mp h
  rcases mem_audit_object.mp hw with ⟨-, x, hx, hflaw⟩ | ⟨c, hc, w', -, rfl⟩
  · refine ⟨x, w.flaw, hx, hflaw, ?_⟩
    rw [← hpath]
    exact hignored
  · obtain ⟨k, rest, -, hhead⟩ := head_of_mem_subschemas hc
    rw [Warning.path_under, hhead] at hpath
    cases hpath

/-- Nothing is ignored in places where no subschema stands. -/
theorem ignoredAt_eq_false (hplace : ∀ c ∈ rules.subschemas, ¬c.1 <+: path) (hpath : path ≠ []) :
    ignoredAt formats (.object rules) path name = false := by
  rw [Bool.eq_false_iff]
  intro h
  obtain ⟨w, hw, -, rfl, -⟩ := ignoredAt_iff.mp h
  rcases mem_audit_object.mp hw with ⟨hnil, -⟩ | ⟨c, hc, w', -, rfl⟩
  · exact hpath hnil
  · exact hplace c hc (List.prefix_append c.1 w'.path)

/-- What is ignored inside a subschema is what its own audit calls ignored. -/
theorem ignoredAt_subschema (hs : (Value.object rules).UniqueNames) {c : Path × Value}
    (hc : c ∈ rules.subschemas) :
    ignoredAt formats (.object rules) (c.1 ++ path) name = ignoredAt formats c.2 path name := by
  rw [Bool.eq_iff_iff, ignoredAt_iff, ignoredAt_iff]
  constructor
  · rintro ⟨w, hw, hignored, hpath, rfl⟩
    rcases mem_audit_object.mp hw with ⟨hnil, -⟩ | ⟨c', hc', w', hw', rfl⟩
    · obtain ⟨k, rest, -, hhead⟩ := head_of_mem_subschemas hc
      rw [hnil, hhead] at hpath
      cases hpath
    · obtain ⟨rfl, rfl⟩ := subschemas_unique hs hc' hc hpath
      exact ⟨w', hw', hignored, rfl, rfl⟩
  · rintro ⟨w, hw, hignored, rfl, rfl⟩
    exact ⟨w.under c.1, mem_audit_object.mpr (.inr ⟨c, hc, w, hw, rfl⟩), hignored, rfl, rfl⟩

/-! ## What is left -/

/-- The members of a schema object that its audit does not call ignored. -/
def Rules.left (formats : FormatRegistry) (rules : Rules) : Rules :=
  Members.without (ignoredAt formats (.object rules)) rules

theorem withoutIgnored_object (formats : FormatRegistry) (rules : Rules) :
    (Value.object rules).withoutIgnored formats = .object (rules.left formats) := by
  rw [Value.withoutIgnored, Value.without, Rules.left]

theorem withoutIgnored_other {s : Value} (h : ∀ rules, s ≠ .object rules) :
    s.withoutIgnored formats = s := by
  have hnothing : ignoredAt formats s = fun _ _ => false := by
    funext path name
    rw [ignoredAt, audit_other formats h, List.any_nil]
  rw [Value.withoutIgnored, hnothing, Value.without_nothing]

theorem at?_left (k : Keyword) :
    (rules.left formats).at? k =
      if ignoredAt formats (.object rules) [] k.name then none
      else (rules.at? k).map
        (Value.without fun path => ignoredAt formats (.object rules) (.key k.name :: path)) :=
  Members.get?_without _ rules k.name

section Left

variable (formats) (hs : (Value.object rules).UniqueNames) {k : Keyword}
include hs

/-- Where a keyword is called ignored, it has no use for its value. -/
theorem idle_of_ignoredAt {x : Value} (hx : rules.at? k = some x)
    (hgone : ignoredAt formats (.object rules) [] k.name = true) : Idle formats k x := by
  obtain ⟨y, f, hy, hflaw, hignored⟩ := ignoredAt_nil hgone
  have hnames := (Value.uniqueNames_object.mp hs).1
  have hone := List.inj_on_of_nodup_map hnames hy (Members.mem_of_get? hx) rfl
  cases hone
  rw [memberFlaw?, Keyword.ofName?_name] at hflaw
  exact idle_of_flaw hflaw hignored

/-- A keyword without subschemas is left alone, or had no use for its value. -/
theorem at?_left_of_plain (hk : k ≠ .properties ∧ k ∉ schemaKeywords) :
    (rules.left formats).at? k = rules.at? k ∨
      (rules.left formats).at? k = none ∧ ∀ x, rules.at? k = some x → Idle formats k x := by
  rw [at?_left]
  by_cases hgone : ignoredAt formats (.object rules) [] k.name = true
  · rw [if_pos hgone]
    exact .inr ⟨rfl, fun x hx => idle_of_ignoredAt formats hs hx hgone⟩
  · have hinside : (fun path => ignoredAt formats (.object rules) (.key k.name :: path)) =
        fun _ _ => false := by
      funext path name
      refine ignoredAt_eq_false (fun c hc hprefix => ?_) (by simp)
      obtain ⟨k', rest, hk', hhead⟩ := head_of_mem_subschemas hc
      rw [hhead] at hprefix
      have hname := Token.key.inj (List.cons_prefix_cons.mp hprefix).1
      obtain rfl := Keyword.name_injective hname
      rcases hk' with ⟨rfl, -⟩ | hmem
      · exact hk.1 rfl
      · exact hk.2 hmem
    rw [if_neg hgone, hinside]
    left
    cases rules.at? k with
    | none => rfl
    | some x => exact congrArg some (Value.without_nothing x)

/-- Whatever reads a keyword without subschemas, and cannot tell an idle value from a missing one, reads
what is left as before. -/
theorem read_left {α : Type} (read : Option Value → α) (hk : k ≠ .properties ∧ k ∉ schemaKeywords)
    (hidle : ∀ x, Idle formats k x → read (some x) = read none) :
    read (rules.at? k) = read ((rules.left formats).at? k) := by
  rcases at?_left_of_plain formats hs hk with hsame | ⟨hnone, hno⟩
  · rw [hsame]
  · rw [hnone]
    cases hx : rules.at? k with
    | none => rfl
    | some x => exact hidle x (hno x hx)

/-- A keyword whose value is a schema keeps it, without what is ignored inside, or had no use for it. -/
theorem at?_left_of_schema (hk : k ∈ schemaKeywords) :
    (∃ s, ([.key k.name], s) ∈ rules.subschemas ∧ rules.at? k = some s ∧
        (rules.left formats).at? k = some (s.withoutIgnored formats)) ∨
      (rules.left formats).at? k = none ∧ ∀ x, rules.at? k = some x →
        x.kind ≠ .object ∧ x.kind ≠ .boolean := by
  rw [at?_left]
  cases hx : rules.at? k with
  | none => exact .inr ⟨by simp, by simp⟩
  | some s =>
      by_cases hgone : ignoredAt formats (.object rules) [] k.name = true
      · have hidle := idle_of_ignoredAt formats hs hx hgone
        refine .inr ⟨by simp [hgone], ?_⟩
        rintro x ⟨⟩
        rcases List.mem_cons.mp hk with rfl | hitems
        · exact hidle
        · obtain rfl := List.mem_singleton.mp hitems
          exact hidle
      · have hc : ([.key k.name], s) ∈ rules.subschemas :=
          Rules.mem_subschemas.mpr (.inr ⟨k, hk, hx, rfl⟩)
        refine .inl ⟨s, hc, rfl, ?_⟩
        rw [if_neg hgone, Option.map_some, Value.withoutIgnored]
        congr 2
        funext path name
        exact ignoredAt_subschema hs hc

/-- What is left declares the same members, each with its schema without what is ignored inside. -/
theorem property?_left (name : String) :
    (∃ s, (∃ path, (path, s) ∈ rules.subschemas) ∧ rules.property? name = some s ∧
        (rules.left formats).property? name = some (s.withoutIgnored formats)) ∨
      rules.property? name = none ∧ (rules.left formats).property? name = none := by
  unfold Rules.property? Rules.properties?
  rw [at?_left]
  cases hx : rules.at? .properties with
  | none => exact .inr ⟨by simp, by simp⟩
  | some x =>
      cases x with
      | object declared =>
          have hkept : ¬ignoredAt formats (.object rules) [] Keyword.properties.name = true :=
            fun hgone => absurd (idle_of_ignoredAt formats hs hx hgone) (by simp [Idle, Value.object?])
          have hdeclared : ignoredAt formats (.object rules) [.key Keyword.properties.name] name =
              false := by
            refine ignoredAt_eq_false (fun c hc hprefix => ?_) (by simp)
            obtain ⟨k, rest, hk, hhead⟩ := head_of_mem_subschemas hc
            rw [hhead] at hprefix
            obtain ⟨hname, hrest⟩ := List.cons_prefix_cons.mp hprefix
            rcases hk with ⟨rfl, hne⟩ | hmem
            · exact hne (List.prefix_nil.mp hrest)
            · obtain rfl := Keyword.key_injective hname
              exact absurd hmem (by decide)
          simp only [if_neg hkept, Option.map_some, Value.without, Option.bind_some, Value.object?,
            Members.get?_without, hdeclared, Bool.false_eq_true, if_false]
          cases hget : Members.get? declared name with
          | none => exact .inr ⟨rfl, rfl⟩
          | some s =>
              have hc : ([.key Keyword.properties.name, .key name], s) ∈ rules.subschemas :=
                Rules.mem_subschemas.mpr (.inl ⟨declared, name, hx, Members.mem_of_get? hget, rfl⟩)
              refine .inl ⟨s, ⟨_, hc⟩, rfl, ?_⟩
              rw [Option.map_some, Value.withoutIgnored]
              congr 2
              funext path inner
              exact ignoredAt_subschema hs hc
      | _ =>
          refine .inr ⟨rfl, ?_⟩
          split
          · rfl
          · simp [Value.without, Value.object?]

end Left

/-! ## Verdicts -/

/-- Lenient validation makes nothing of a format that is missing or idle. -/
theorem formatBreaches_eq_nil_of_idle (h : ∀ x, rules.at? .format = some x → Idle formats .format x)
    (text : String) : formatBreaches ⟨formats, false⟩ rules text = [] := by
  unfold formatBreaches
  cases hformat : rules.format? with
  | none => rfl
  | some format =>
      have hidle := h _ (bind_string?_eq_some.mp hformat)
      have hunknown : formats.find? format = none := by
        simpa [FormatRegistry.has] using hidle format rfl
      simp [FormatRegistry.check, hunknown, breachIf]

/-- **A schema object is read alike without what is ignored**, if its subschemas give the same verdicts
without it. -/
theorem readAlike_left (hs : (Value.object rules).UniqueNames)
    (ih : ∀ c ∈ rules.subschemas, SameVerdicts ⟨formats, false⟩ c.2 (c.2.withoutIgnored formats)) :
    Rules.ReadAlike ⟨formats, false⟩ rules (rules.left formats) where
  typeNames := by
    have hat := read_left formats hs (k := .type) id (by decide) (fun _ h => h.elim)
    unfold Rules.typeNames?
    rw [id, id] at hat
    rw [hat]
  allowed := read_left formats hs (fun o => o.bind Value.array?) (by decide) (fun _ h => h)
  constant := read_left formats hs (k := .const) id (by decide) (fun _ h => h.elim)
  required := read_left formats hs (k := .required)
    (fun o => ((o.bind Value.array?).getD []).filterMap Value.string?) (by decide) (fun _ h => h.elim)
  forbidsOthers := by
    unfold Rules.forbidsOthers
    rcases at?_left_of_schema formats hs (k := .additionalProperties) (by decide) with
      ⟨s, -, hat, hleft⟩ | ⟨hleft, hno⟩
    · rw [hat, hleft]
      cases s with
      | object members => rfl
      | _ => rw [withoutIgnored_other (by simp)]
    · rw [hleft]
      cases hx : rules.at? .additionalProperties with
      | none => rfl
      | some x =>
          cases x with
          | bool b => exact absurd rfl (hno _ hx).2
          | _ => rfl
  limit := by
    intro k hk
    simp only [lengthKeywords, List.mem_cons, List.not_mem_nil, or_false] at hk
    rcases hk with rfl | rfl | rfl | rfl <;>
      exact read_left formats hs (fun o => o.bind Value.count?) (by decide) (fun _ h => h)
  bound := by
    intro k hk
    simp only [boundKeywords, List.mem_cons, List.not_mem_nil, or_false] at hk
    rcases hk with rfl | rfl | rfl | rfl <;>
      exact read_left formats hs (fun o => o.bind Value.number?) (by decide) (fun _ h => h)
  pattern := read_left formats hs (fun o => o.bind Value.string?) (by decide) (fun _ h => h)
  format := by
    intro text
    rcases at?_left_of_plain formats hs (k := .format) (by decide) with hsame | ⟨hnone, hno⟩
    · unfold formatBreaches Rules.format?
      rw [hsame]
    · rw [formatBreaches_eq_nil_of_idle hno, formatBreaches_eq_nil_of_idle]
      intro x hx
      rw [hnone] at hx
      cases hx
  property := by
    intro name
    rcases property?_left formats hs name with ⟨s, ⟨path, hc⟩, hat, hleft⟩ | ⟨hat, hleft⟩
    · rw [hat, hleft]
      exact .some (ih _ hc)
    · rw [hat, hleft]
      exact .none
  other := by
    unfold Rules.otherSchema?
    rcases at?_left_of_schema formats hs (k := .additionalProperties) (by decide) with
      ⟨s, hc, hat, hleft⟩ | ⟨hleft, hno⟩
    · rw [hat, hleft]
      cases s with
      | object members =>
          have hsame := ih _ hc
          rw [withoutIgnored_object] at hsame ⊢
          exact .some hsame
      | _ =>
          rw [withoutIgnored_other (by simp)]
          exact .none
    · rw [hleft]
      cases hx : rules.at? .additionalProperties with
      | none => exact .none
      | some x =>
          cases x with
          | object members => exact absurd rfl (hno _ hx).1
          | _ => exact .none
  element := by
    unfold Rules.elementSchema?
    rcases at?_left_of_schema formats hs (k := .items) (by decide) with
      ⟨s, hc, hat, hleft⟩ | ⟨hleft, hno⟩
    · rw [hat, hleft]
      cases s with
      | object members =>
          have hsame := ih _ hc
          rw [withoutIgnored_object] at hsame ⊢
          exact .some hsame
      | bool b =>
          rw [withoutIgnored_other (by simp)]
          exact .some (.refl _)
      | _ =>
          rw [withoutIgnored_other (by simp)]
          exact .none
    · rw [hleft]
      cases hx : rules.at? .items with
      | none => exact .none
      | some x =>
          cases x with
          | object members => exact absurd rfl (hno _ hx).1
          | bool b => exact absurd rfl (hno _ hx).2
          | _ => exact .none

theorem sameVerdicts_withoutIgnored {schema : Value} (hs : schema.UniqueNames) :
    SameVerdicts ⟨formats, false⟩ schema (schema.withoutIgnored formats) := by
  induction schema using subschema_induction with
  | object rules ih =>
      rw [withoutIgnored_object]
      refine (readAlike_left hs fun c hc => ?_).sameVerdicts
      exact ih c hc (uniqueNames_of_mem_subschemas hs hc)
  | other schema hother =>
      rw [withoutIgnored_other hother]
      exact .refl schema

/-- **What the audit calls ignored is ignored**: taken out of the schema, wherever it stands in it, it
changes no lenient verdict, whatever the validators have judged before. -/
theorem validate_withoutIgnored (formats : FormatRegistry) {schema : Value} (hs : schema.UniqueNames)
    (calls calls' : List (Value × Value)) (document : Value) :
    ((Validator.after ⟨formats, false⟩ calls).validate (schema.withoutIgnored formats) document).1 =
      ((Validator.after ⟨formats, false⟩ calls').validate schema document).1 := by
  rw [Validator.validate_after, Validator.validate_after]
  exact congrArg Verdict.mk (sameVerdicts_withoutIgnored hs document).symm

/-- A schema for parcels with members of all kinds that are ignored, some of them in subschemas. -/
def parcelSchema : Value :=
  .object
    [("required", .array [.string "weight", .null]),
      ("properties", .object
        [("weight", .object [("minimum", .string "0"), ("enum", .array [.null, .bool true])]),
          ("zone", .object [("format", .string "postcode"), ("maxLength", .bool true)])]),
      ("additionalProperties", .object [("items", .array [.bool false]), ("$ref", .string "#/note")]),
      ("pattern", .null)]

theorem parcelSchema_uniqueNames : parcelSchema.UniqueNames := by
  simp [parcelSchema, or_imp, forall_and]

-- the list of `required` stays, flawed as it is: it still asks for a member
example : parcelSchema.withoutIgnored .empty =
    .object
      [("required", .array [.string "weight", .null]),
        ("properties", .object
          [("weight", .object [("enum", .array [.null, .bool true])]), ("zone", .object [])]),
        ("additionalProperties", .object [])] := rfl

theorem validate_withoutIgnored_parcel :
    parcelSchema.UniqueNames ∧
      let document : Value := .object [("zone", .string "north"), ("weight", .string "heavy")]
      ((Validator.after ⟨.empty, false⟩ []).validate (parcelSchema.withoutIgnored .empty) document).1 =
        ((Validator.after ⟨.empty, false⟩ []).validate parcelSchema document).1 :=
  ⟨parcelSchema_uniqueNames, validate_withoutIgnored .empty parcelSchema_uniqueNames [] [] _⟩

end JsonSchema
