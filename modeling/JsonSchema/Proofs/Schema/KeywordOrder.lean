import JsonSchema.Proofs.Json.Reordered
import JsonSchema.Proofs.Schema.PatternCache
import JsonSchema.Proofs.Schema.ReadAlike

/-!
# `JsonSchema.Proofs.Schema.KeywordOrder` — verdicts look past the order in which a schema is written

The walk follows the document, and asks a schema for its keywords and for the schemas of members by name. So
the order of the members of a schema object, of its `properties` and of whatever lies below them cannot be
seen in a verdict. The values of `enum` and `const` are the one exception: a message shows them, with their
members in the order in which they are written.

What a value of a schema is good for depends on where it stands, so schemas that differ in order alone are
compared place by place, each place with its *role*.

## Contents
- **Roles.** `Role`, `Role.ofKeyword`, `Role.under`.
- **Rearranged schemas.** `Value.Rearranged`: the order of members is free except under `enum` and `const`.
- **Reading.** `read_of_rearranged`, `texts_of_rearranged`: what readers of keywords see.
- **Agreement.** `Role.Agrees`, `Rules.Alike` with one lemma per reader, `agrees_of_rearranged`.
- **Verdicts.** Main statement `validate_of_rearranged`.
-/

namespace JsonSchema

/-! ## Roles -/

/-- What a value is good for at its place in a schema. -/
inductive Role where
  /-- to judge a value -/
  | schema
  /-- to give schemas to members by their names -/
  | declarations
  /-- to be read at most as a text, a number, or a list of texts -/
  | setting
  /-- to be compared with a value and to be shown -/
  | constant
deriving DecidableEq

namespace Role

/-- The role of the value of a keyword. -/
def ofKeyword : Keyword → Role
  | .enum | .const => .constant
  | .properties => .declarations
  | .items | .additionalProperties => .schema
  | _ => .setting

/-- The role of a member in an object of a role. -/
def under : Role → String → Role
  | .schema, name =>
    match Keyword.ofName? name with
    | some k => ofKeyword k
    | none => .setting
  | .declarations, _ => .schema
  | .setting, _ => .setting
  | .constant, _ => .constant

@[simp] theorem under_name (k : Keyword) : Role.under .schema k.name = ofKeyword k := by
  rw [under, Keyword.ofName?_name]

end Role

/-! ## Rearranged schemas -/

/-- **Two values of a role differ in the order of members alone**, in objects at any depth, but not where
members are shown. As for `Value.Reordered`, a row is a name with the value on either side. -/
inductive Value.Rearranged : Role → Value → Value → Prop where
  | same (role : Role) (v : Value) : Rearranged role v v
  | array {role : Role} (movable : role ≠ .constant) (pairs : List (Value × Value))
      (each : ∀ p ∈ pairs, Rearranged .setting p.1 p.2) :
      Rearranged role (.array (pairs.map Prod.fst)) (.array (pairs.map Prod.snd))
  | object {role : Role} {members members' : Members} (movable : role ≠ .constant)
      (rows : List (String × Value × Value))
      (left : members.Perm (rows.map fun r => (r.1, r.2.1)))
      (right : members'.Perm (rows.map fun r => (r.1, r.2.2)))
      (each : ∀ r ∈ rows, Rearranged (role.under r.1) r.2.1 r.2.2) :
      Rearranged role (.object members) (.object members')

/-! ## Reading -/

section Reading

variable {role : Role} {v w : Value}

theorem Value.Rearranged.eq_of_constant (h : v.Rearranged .constant w) : v = w := by
  cases h with
  | same => rfl
  | array movable => exact absurd rfl movable
  | object movable => exact absurd rfl movable

/-- A reader that makes nothing of arrays and objects sees no difference. -/
theorem read_of_rearranged {α : Type} {read : Value → Option α} (h : v.Rearranged role w)
    (harray : ∀ elements, read (.array elements) = none)
    (hobject : ∀ members, read (.object members) = none) : read v = read w := by
  cases h with
  | same => rfl
  | array movable pairs each => rw [harray, harray]
  | object movable rows left right each => rw [hobject, hobject]

/-- The texts in a list stay where they are. -/
theorem texts_of_rearranged {pairs : List (Value × Value)}
    (each : ∀ p ∈ pairs, p.1.Rearranged role p.2) :
    (pairs.map Prod.fst).filterMap Value.string? = (pairs.map Prod.snd).filterMap Value.string? := by
  rw [List.filterMap_map, List.filterMap_map]
  refine List.filterMap_congr fun p hp => ?_
  exact read_of_rearranged (each p hp) (fun _ => rfl) fun _ => rfl

/-- What is read of a keyword by a reader that makes nothing of arrays and objects. -/
theorem bind_of_rel {α : Type} {read : Value → Option α} {o o' : Option Value}
    (h : Option.Rel (Value.Rearranged role) o o') (harray : ∀ elements, read (.array elements) = none)
    (hobject : ∀ members, read (.object members) = none) : o.bind read = o'.bind read := by
  cases h with
  | none => rfl
  | some hvalue => exact read_of_rearranged hvalue harray hobject

end Reading

/-! ## Agreement -/

variable {policy : FormatPolicy} {rules rules' : Rules} {v w : Value}

/-- The schema that a value gives to a member, where it declares members. -/
def Value.declared? (v : Value) (name : String) : Option Value :=
  v.object?.bind fun declared => Members.get? declared name

/-- What two values of a role have to agree on, as far as verdicts go. -/
def Role.Agrees (policy : FormatPolicy) : Role → Value → Value → Prop
  | .schema, s, s' => SameVerdicts policy s s'
  | .declarations, d, d' =>
    ∀ name, Option.Rel (SameVerdicts policy) (d.declared? name) (d'.declared? name)
  | .setting, _, _ | .constant, _, _ => True

/-- Two schema objects hold values under each keyword that differ in order alone and agree, or hold none. -/
def Rules.Alike (policy : FormatPolicy) (rules rules' : Rules) : Prop :=
  ∀ k : Keyword, Option.Rel
    (fun x x' => x.Rearranged (Role.ofKeyword k) x' ∧ (Role.ofKeyword k).Agrees policy x x')
    (rules.at? k) (rules'.at? k)

namespace Rules.Alike

variable (h : Rules.Alike policy rules rules')
include h

/-- Without what the values agree on. -/
theorem rearranged (k : Keyword) :
    Option.Rel (Value.Rearranged (Role.ofKeyword k)) (rules.at? k) (rules'.at? k) := by
  have hrel := h k
  generalize rules.at? k = o, rules'.at? k = o' at hrel
  cases hrel with
  | none => exact .none
  | some hvalue => exact .some hvalue.1

theorem at?_eq {k : Keyword} (hk : Role.ofKeyword k = .constant) : rules.at? k = rules'.at? k := by
  have hrel := h.rearranged k
  rw [hk] at hrel
  generalize rules.at? k = o, rules'.at? k = o' at hrel
  cases hrel with
  | none => rfl
  | some hvalue => rw [hvalue.eq_of_constant]

theorem typeNames : rules.typeNames? = rules'.typeNames? := by
  have hrel := h.rearranged .type
  unfold Rules.typeNames?
  generalize rules.at? .type = o, rules'.at? .type = o' at hrel
  cases hrel with
  | none => rfl
  | some hvalue =>
      cases hvalue with
      | same => rfl
      | array movable pairs each => exact congrArg some (texts_of_rearranged each)
      | object => rfl

theorem required : rules.required = rules'.required := by
  have hrel := h.rearranged .required
  unfold Rules.required
  generalize rules.at? .required = o, rules'.at? .required = o' at hrel
  cases hrel with
  | none => rfl
  | some hvalue =>
      cases hvalue with
      | same => rfl
      | array movable pairs each => exact texts_of_rearranged each
      | object => rfl

theorem forbidsOthers : rules.forbidsOthers = rules'.forbidsOthers := by
  have hrel := h.rearranged .additionalProperties
  unfold Rules.forbidsOthers
  generalize rules.at? .additionalProperties = o, rules'.at? .additionalProperties = o' at hrel
  cases hrel with
  | none => rfl
  | some hvalue => cases hvalue <;> rfl

theorem pattern : rules.pattern? = rules'.pattern? :=
  bind_of_rel (h.rearranged .pattern) (fun _ => rfl) fun _ => rfl

theorem format : rules.format? = rules'.format? :=
  bind_of_rel (h.rearranged .format) (fun _ => rfl) fun _ => rfl

theorem limit (k : Keyword) : rules.limit? k = rules'.limit? k :=
  bind_of_rel (h.rearranged k) (fun _ => rfl) fun _ => rfl

theorem bound (k : Keyword) : rules.bound? k = rules'.bound? k :=
  bind_of_rel (h.rearranged k) (fun _ => rfl) fun _ => rfl

theorem property (name : String) :
    Option.Rel (SameVerdicts policy) (rules.property? name) (rules'.property? name) := by
  have hrel := h .properties
  unfold Rules.property? Rules.properties?
  generalize rules.at? .properties = o, rules'.at? .properties = o' at hrel
  cases hrel with
  | none => exact .none
  | some hvalue => exact hvalue.2 name

theorem other : Option.Rel (SameVerdicts policy) rules.otherSchema? rules'.otherSchema? := by
  have hrel := h .additionalProperties
  unfold Rules.otherSchema?
  generalize rules.at? .additionalProperties = o, rules'.at? .additionalProperties = o' at hrel
  cases hrel with
  | none => exact .none
  | @some x x' hvalue =>
      obtain ⟨hrearranged, hagrees⟩ := hvalue
      cases hrearranged with
      | same =>
          cases x with
          | object members => exact .some (.refl _)
          | _ => exact .none
      | array => exact .none
      | object => exact .some hagrees

theorem element : Option.Rel (SameVerdicts policy) rules.elementSchema? rules'.elementSchema? := by
  have hrel := h .items
  unfold Rules.elementSchema?
  generalize rules.at? .items = o, rules'.at? .items = o' at hrel
  cases hrel with
  | none => exact .none
  | @some x x' hvalue =>
      obtain ⟨hrearranged, hagrees⟩ := hvalue
      cases hrearranged with
      | same =>
          cases x with
          | object members => exact .some (.refl _)
          | bool b => exact .some (.refl _)
          | _ => exact .none
      | array => exact .none
      | object => exact .some hagrees

/-- **Schema objects that are alike are read alike.** -/
theorem readAlike : Rules.ReadAlike policy rules rules' where
  typeNames := h.typeNames
  allowed := congrArg (Option.bind · Value.array?) (h.at?_eq rfl)
  constant := h.at?_eq rfl
  required := h.required
  forbidsOthers := h.forbidsOthers
  limit := fun k _ => h.limit k
  bound := fun k _ => h.bound k
  pattern := h.pattern
  format := by
    intro text
    unfold formatBreaches
    rw [h.format]
  property := h.property
  other := h.other
  element := h.element

end Rules.Alike

/-- An array is no schema, and finds nothing. -/
theorem sameVerdicts_array (elements elements' : List Value) :
    SameVerdicts policy (.array elements) (.array elements') := by
  intro document
  rw [violations_eq, violations_eq]
  rfl

/-- **Values that differ in order alone agree** on all that their role asks for. -/
theorem agrees_of_rearranged {role : Role} (h : v.Rearranged role w) (hv : v.UniqueNames) :
    role.Agrees policy v w := by
  -- the induction is over what has been rearranged: rows of `properties` are schemas in turn
  induction h with
  | same role v =>
      cases role with
      | schema => exact .refl v
      | declarations =>
          intro name
          cases v.declared? name with
          | none => exact .none
          | some s => exact .some (.refl s)
      | setting | constant => trivial
  | @array role movable pairs each ih =>
      cases role with
      | schema => exact sameVerdicts_array _ _
      | declarations => exact fun name => .none
      | setting | constant => trivial
  | @object role members members' movable rows left right each ih =>
      have hnames := (Value.uniqueNames_object.mp hv).1
      have hrows : ∀ r ∈ rows, r.2.1.Rearranged (role.under r.1) r.2.2 ∧
          (role.under r.1).Agrees policy r.2.1 r.2.2 :=
        fun r hr => ⟨each r hr, ih r hr (uniqueNames_of_row left hv hr)⟩
      cases role with
      | schema =>
          have halike : Rules.Alike policy members members' := by
            intro k
            have hrel := get?_of_named_rows (R := fun name x x' =>
              x.Rearranged (Role.under .schema name) x' ∧ (Role.under .schema name).Agrees policy x x')
              left right hnames hrows k.name
            simp only [Role.under_name] at hrel
            exact hrel
          exact halike.readAlike.sameVerdicts
      | declarations =>
          intro name
          exact get?_of_rows left right hnames (fun r hr => (hrows r hr).2) name
      | setting | constant => trivial

/-! ## Verdicts -/

/-- **The order in which a schema is written does not matter.** Two schemas that differ in the order of
members alone, be it of schema objects, of `properties` or of anything in them but what `enum` and `const`
hold, give one verdict on every document: the same violations in the same order with the same messages,
whatever the validators have judged before. -/
theorem validate_of_rearranged (policy : FormatPolicy) (calls calls' : List (Value × Value))
    {schema schema' : Value} (hs : schema.UniqueNames) (h : schema.Rearranged .schema schema')
    (document : Value) :
    ((Validator.after policy calls).validate schema document).1 =
      ((Validator.after policy calls').validate schema' document).1 := by
  rw [Validator.validate_after, Validator.validate_after]
  have hagrees : SameVerdicts policy schema schema' := agrees_of_rearranged h hs
  exact congrArg Verdict.mk (hagrees document)

/-- A schema for journeys. -/
def journeySchema : Value :=
  .object
    [("properties", .object
        [("from", .object [("pattern", .string "^[A-Z]+$"), ("type", .string "string")]),
          ("fare", .object [("const", .object [("class", .null), ("discount", .null)])])]),
      ("additionalProperties", .bool false)]

/-- The same schema, written in another order on three levels, but not in the constant. -/
def journeyRearranged : Value :=
  .object
    [("additionalProperties", .bool false),
      ("properties", .object
        [("fare", .object [("const", .object [("class", .null), ("discount", .null)])]),
          ("from", .object [("type", .string "string"), ("pattern", .string "^[A-Z]+$")])])]

theorem journeySchema_rearranged : journeySchema.Rearranged .schema journeyRearranged := by
  have hfrom : (Value.object [("pattern", .string "^[A-Z]+$"), ("type", .string "string")]).Rearranged
      .schema (.object [("type", .string "string"), ("pattern", .string "^[A-Z]+$")]) := by
    refine .object (by decide) [("pattern", .string "^[A-Z]+$", .string "^[A-Z]+$"),
      ("type", .string "string", .string "string")] (.refl _) (.swap _ _ _) fun r hr => ?_
    simp only [List.mem_cons, List.not_mem_nil, or_false] at hr
    rcases hr with rfl | rfl
    · exact .same _ _
    · exact .same _ _
  refine .object (by decide) [("properties", _, _), ("additionalProperties", .bool false, .bool false)]
    (.refl _) (.swap _ _ _) fun r hr => ?_
  simp only [List.mem_cons, List.not_mem_nil, or_false] at hr
  rcases hr with rfl | rfl
  · refine .object (by decide) [("from", _, _), ("fare", _, _)] (.refl _) (.swap _ _ _) fun r hr => ?_
    simp only [List.mem_cons, List.not_mem_nil, or_false] at hr
    rcases hr with rfl | rfl
    · exact hfrom
    · exact .same _ _
  · exact .same _ _

theorem validate_of_rearranged_journey :
    journeySchema.UniqueNames ∧ journeySchema.Rearranged .schema journeyRearranged ∧
      let document : Value := .object [("fare", .null), ("via", .null), ("from", .string "here")]
      ((Validator.after ⟨.empty, false⟩ []).validate journeySchema document).1 =
        ((Validator.after ⟨.empty, false⟩ []).validate journeyRearranged document).1 := by
  have hnames : journeySchema.UniqueNames := by
    simp [journeySchema, or_imp, forall_and]
  exact ⟨hnames, journeySchema_rearranged,
    validate_of_rearranged ⟨.empty, false⟩ [] [] hnames journeySchema_rearranged _⟩

end JsonSchema
