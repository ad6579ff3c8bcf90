import JsonSchema.Proofs.Audit.Subschemas

/-!
# `JsonSchema.Proofs.Audit.Silence` — what validation passes over in a schema without warnings

Validation passes over a keyword that it cannot use and over a schema that is none. The audit is there to
say so beforehand. Where it says nothing, validation heeds every keyword that it comes to, and every
schema that it comes to is an object or a boolean, but for two shapes that the audit lets pass: an empty
list of types, which asks for nothing, and a declared member whose schema is neither object nor boolean.

## Contents
- **Heeded keywords.** `Rules.Heeds`, in the terms of the functions that validation reads a schema with.
- **One keyword.** `heeds_of_unflawed`: what has no flaw is heeded.
- **Whole schemas.** `Reaches.schema_cases`, and the main statement `heeds_of_silent_audit`.
- **Gaps.** `silent_audit_gaps`: both shapes, in one schema without warnings.
-/

namespace JsonSchema

/-! ## Heeded keywords -/

/-- Validation heeds the whole value of a keyword: the function that reads the keyword has a use for the
value, and passes over no part of it. -/
def Rules.Heeds (formats : FormatRegistry) (rules : Rules) (k : Keyword) (x : Value) : Prop :=
  match k with
  | .type =>
    ∃ names, rules.typeNames? = some names ∧ names ≠ [] ∧
      (∀ name ∈ names, ∃ t : TypeName, t.name = name) ∧
      (x = .array (names.map .string) ∨ ∃ name, names = [name] ∧ x = .string name)
  | .enum => ∃ values, rules.allowed? = some values
  | .const => rules.constant? = some x
  | .properties => ∃ declared, rules.properties? = some declared
  | .required => x = .array (rules.required.map .string)
  | .additionalProperties =>
    rules.forbidsOthers = true ∨ x = .bool true ∨ rules.otherSchema? = some x
  | .items => rules.elementSchema? = some x
  | .minItems | .maxItems | .minLength | .maxLength => ∃ n, rules.limit? k = some n
  | .minimum | .maximum | .exclusiveMinimum | .exclusiveMaximum => ∃ b, rules.bound? k = some b
  | .pattern => ∃ source p, rules.pattern? = some source ∧ Pattern.compile? source = some p
  | .format => ∃ format, rules.format? = some format ∧ formats.has format = true
  | .schemaUri | .id | .comment | .title | .description | .default | .examples => True

/-! ## One keyword -/

section Keyword

variable {formats : FormatRegistry} {rules : Rules} {k : Keyword} {x : Value}

/-- What must be read and has no flaw has been read. -/
theorem exists_of_mustHold {α : Type} {o : Option α} {expected : String}
    (h : mustHold o.isSome expected = none) : ∃ a, o = some a :=
  Option.isSome_iff_exists.mp (mustHold_eq_none_iff.mp h)

/-- A list of types without a flaw holds nothing but the names of types. -/
theorem names_of_typeNameFlaw {names : List Value} (h : typeNameFlaw? names = none) :
    ∃ texts : List String, names = texts.map .string ∧ ∀ name ∈ texts, ∃ t : TypeName, t.name = name := by
  induction names with
  | nil => exact ⟨[], rfl, by simp⟩
  | cons v rest ih =>
      cases v with
      | string name =>
          rw [typeNameFlaw?] at h
          split at h
          case isTrue hknown =>
            obtain ⟨texts, rfl, heach⟩ := ih h
            obtain ⟨t, ht⟩ := Option.isSome_iff_exists.mp hknown
            refine ⟨name :: texts, rfl, List.forall_mem_cons.mpr ⟨⟨t, ?_⟩, heach⟩⟩
            exact TypeName.name_of_ofName? ht
          case isFalse => cases h
      | _ => cases h

theorem filterMap_string?_map (texts : List String) :
    (texts.map Value.string).filterMap Value.string? = texts := by
  rw [List.filterMap_map]
  exact List.filterMap_some

theorem heeds_type (hx : rules.at? .type = some x) (hflaw : flaw? formats .type x = none) :
    rules.Heeds formats .type x ∨ x = .array [] := by
  cases x with
  | string name =>
      obtain ⟨texts, htexts, heach⟩ := names_of_typeNameFlaw hflaw
      have hname : texts = [name] := by
        have hsame := congrArg (List.filterMap Value.string?) htexts
        rw [filterMap_string?_map] at hsame
        exact hsame.symm
      subst hname
      refine .inl ⟨[name], ?_, by simp, heach, .inr ⟨name, rfl, rfl⟩⟩
      rw [Rules.typeNames?, hx]
  | array names =>
      obtain ⟨texts, rfl, heach⟩ := names_of_typeNameFlaw hflaw
      cases texts with
      | nil => exact .inr rfl
      | cons name rest =>
          refine .inl ⟨name :: rest, ?_, by simp, heach, .inl rfl⟩
          rw [Rules.typeNames?, hx]
          exact congrArg some (filterMap_string?_map (name :: rest))
  | _ => cases hflaw

theorem heeds_required (hx : rules.at? .required = some x)
    (hflaw : flaw? formats .required x = none) : rules.Heeds formats .required x := by
  cases x with
  | array names =>
      have hall : (names.all fun n => n.string?.isSome) = true := mustHold_eq_none_iff.mp hflaw
      show Value.array names = .array (rules.required.map .string)
      rw [Rules.required_eq hx, List.map_filterMap]
      congr 1
      have hself : names.filterMap some = names := List.filterMap_some
      refine hself.symm.trans (List.filterMap_congr fun n hn => ?_)
      have htext := List.all_eq_true.mp hall n hn
      cases n with
      | string name => rfl
      | _ => cases htext
  | _ => cases hflaw

/-- **A keyword without a flaw is heeded**, unless it is an empty list of types. -/
theorem heeds_of_unflawed (hx : rules.at? k = some x) (hflaw : flaw? formats k x = none) :
    rules.Heeds formats k x ∨ k = .type ∧ x = .array [] := by
  cases k with
  | type => exact (heeds_type hx hflaw).imp_right fun hnil => ⟨rfl, hnil⟩
  | required => exact .inl (heeds_required hx hflaw)
  | enum =>
      obtain ⟨values, hvalues⟩ := exists_of_mustHold hflaw
      exact .inl ⟨values, by rw [Rules.allowed?, hx, Option.bind_some, hvalues]⟩
  | properties =>
      obtain ⟨declared, hdeclared⟩ := exists_of_mustHold hflaw
      exact .inl ⟨declared, by rw [Rules.properties?, hx, Option.bind_some, hdeclared]⟩
  | const => exact .inl hx
  | additionalProperties =>
      left
      show _ ∨ _ ∨ _
      rw [Rules.forbidsOthers, Rules.otherSchema?, hx]
      cases x with
      | bool b => cases b <;> simp
      | object members => simp
      | _ => cases hflaw
  | items =>
      left
      show rules.elementSchema? = some x
      rw [Rules.elementSchema?, hx]
      cases x with
      | bool b => rfl
      | object members => rfl
      | _ => cases hflaw
  | minItems | maxItems | minLength | maxLength =>
      obtain ⟨n, hn⟩ := exists_of_mustHold hflaw
      exact .inl ⟨n, by rw [Rules.limit?, hx, Option.bind_some, hn]⟩
  | minimum | maximum | exclusiveMinimum | exclusiveMaximum =>
      obtain ⟨b, hb⟩ := exists_of_mustHold hflaw
      exact .inl ⟨b, by rw [Rules.bound?, hx, Option.bind_some, hb]⟩
  | pattern =>
      cases x with
      | string source =>
          have hif : (if (Pattern.compile? source).isSome then none
            else some (Flaw.invalidPattern source)) = none := hflaw
          split at hif
          case isTrue hcompiles =>
            obtain ⟨p, hp⟩ := Option.isSome_iff_exists.mp hcompiles
            exact .inl ⟨source, p, bind_string?_eq_some.mpr hx, hp⟩
          case isFalse => cases hif
      | _ => cases hflaw
  | format =>
      cases x with
      | string format =>
          have hif : (if formats.has format then none else some (Flaw.unknownFormat format)) = none :=
            hflaw
          split at hif
          case isTrue hhas => exact .inl ⟨format, bind_string?_eq_some.mpr hx, hhas⟩
          case isFalse => cases hif
      | _ => cases hflaw
  | schemaUri | id | comment | title | description | default | examples => exact .inl trivial

end Keyword

/-! ## Whole schemas -/

/-- A member of a document is judged by a schema that a schema object declares for it. -/
def DeclaredThere (schema v : Value) (path : Path) (s : Value) : Prop :=
  ∃ outer name parent members, path = outer ++ [.key name] ∧
    Reaches schema v outer (.object parent) (.object members) ∧ Rules.Declares parent name s

/-- Where validation comes from: it has begun there, or it comes with an object or a boolean, or with what
is declared for the member. -/
theorem Reaches.schema_cases {schema v s w : Value} {path : Path} (h : Reaches schema v path s w) :
    path = [] ∧ s = schema ∨ (∃ own, s = .object own) ∨ (∃ b, s = .bool b) ∨
      DeclaredThere schema v path s := by
  induction h with
  | here => exact .inl ⟨rfl, rfl⟩
  | @step rules v t s w path s' w' gate governs rest ih =>
      right
      rcases ih with ⟨rfl, rfl⟩ | hobject | hbool | ⟨outer, name, parent, members, rfl, hreach, hd⟩
      · cases governs with
        | declared hm hd => exact .inr (.inr ⟨[], _, rules, _, rfl, .here, hd⟩)
        | undeclared _ _ _ => exact .inl ⟨_, rfl⟩
        | element _ _ hkind =>
            cases s' with
            | object own => exact .inl ⟨own, rfl⟩
            | bool b => exact .inr (.inl ⟨b, rfl⟩)
            | _ => simp [Value.kind] at hkind
      · exact .inl hobject
      · exact .inr (.inl hbool)
      · exact .inr (.inr ⟨t :: outer, name, parent, members, rfl, .step gate governs hreach, hd⟩)

/-- **In a schema object without warnings validation passes over nothing but two shapes**: wherever it
comes, every keyword is heeded, unless it is an empty list of types; and the schema that it comes with is
an object or a boolean, unless it is what is declared for a member. -/
theorem heeds_of_silent_audit (formats : FormatRegistry) (rules : Rules)
    (hsilent : audit formats (.object rules) = []) {document s u : Value} {path : Path}
    (h : Reaches (.object rules) document path s u) :
    (∀ (own : Rules) (k : Keyword) (x : Value), s = .object own → own.at? k = some x →
      own.Heeds formats k x ∨ k = .type ∧ x = .array []) ∧
    ((∃ own, s = .object own) ∨ (∃ b, s = .bool b) ∨ DeclaredThere (.object rules) document path s) := by
  constructor
  · rintro own k x rfl hx
    refine heeds_of_unflawed hx (Option.eq_none_iff_forall_ne_some.mpr fun f hflaw => ?_)
    obtain ⟨place, hwarned⟩ := audit_of_reaches h (warned_of_flaw hx hflaw)
    rw [hsilent] at hwarned
    exact absurd hwarned List.not_mem_nil
  · rcases h.schema_cases with ⟨-, rfl⟩ | hrest
    · exact .inl ⟨rules, rfl⟩
    · exact hrest

/-- A schema for reports whose every keyword is heeded. -/
def reportRules : Rules :=
  [("type", .array [.string "object", .string "null"]),
    ("properties", .object [("pages", .object [("type", .string "integer"), ("minimum", .number
      (.integer 2 (by decide) (by decide)))])]),
    ("additionalProperties", .bool false)]

theorem heeds_of_silent_audit_report :
    audit .empty (.object reportRules) = [] ∧
      Reaches (.object reportRules) (.object [("pages", .null)]) [.key "pages"]
        (.object [("type", .string "integer"), ("minimum", .number
          (.integer 2 (by decide) (by decide)))]) .null ∧
      Rules.Heeds .empty [("type", .string "integer"), ("minimum", .number
        (.integer 2 (by decide) (by decide)))] .type (.string "integer") := by
  have hsilent : audit .empty (.object reportRules) = [] := by decide
  have hreach : Reaches (.object reportRules) (.object [("pages", .null)]) [.key "pages"]
      (.object [("type", .string "integer"), ("minimum", .number
        (.integer 2 (by decide) (by decide)))]) .null :=
    .step (Rules.opens_iff.mp (by decide)) (.declared List.mem_cons_self ⟨_, rfl, rfl⟩) .here
  refine ⟨hsilent, hreach, ?_⟩
  have heeded := (heeds_of_silent_audit .empty reportRules hsilent hreach).1 _ .type _ rfl rfl
  exact heeded.resolve_right fun h => absurd h.2 (by simp)

/-! ## Gaps -/

/-- A schema with an empty list of types, and with a number where a schema should be declared. -/
def gapRules : Rules :=
  [("type", .array []),
    ("properties", .object [("size", .number (.integer 5 (by decide) (by decide)))])]

/-- **Both gaps**: there are no warnings about the schema, yet validation comes to its empty list of
types, which it does not heed, and judges a member by a number, which is no schema. -/
theorem silent_audit_gaps :
    audit .empty (.object gapRules) = [] ∧
      gapRules.at? .type = some (.array []) ∧ ¬gapRules.Heeds .empty .type (.array []) ∧
      Reaches (.object gapRules) (.object [("size", .null)]) [.key "size"]
        (.number (.integer 5 (by decide) (by decide))) .null := by
  refine ⟨by decide, rfl, ?_, ?_⟩
  · rintro ⟨names, hnames, hne, -⟩
    cases hnames
    exact hne rfl
  · exact .step (Rules.opens_iff.mp (by decide)) (.declared List.mem_cons_self ⟨_, rfl, rfl⟩) .here

end JsonSchema
