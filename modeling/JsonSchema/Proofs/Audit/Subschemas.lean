import JsonSchema.Schema.Audit
import JsonSchema.Proofs.Schema.Places

/-!
# `JsonSchema.Proofs.Audit.Subschemas` — the audit as one step and a recursion over subschemas

The audit walks the schema alone, validation walks the document with the schema beside it. Here the
audit is brought into the form that validation already has: one equation without the trail
(`audit_object`), in which the warnings of a schema object are its own, followed by those of each
subschema under the path that leads to it. The subschemas are all that validation ever goes on with, so
what the audit says of a schema that validation reaches, it says of the whole schema too.

## Contents
- **Subschemas.** `Rules.subschemas`, `subschema_induction`: subschemas are smaller than the schema; and
  `subschemas_unique`: each stands in a place of its own.
- **Warnings.** `Warning.under`, `warnings_under`, `audit_object`, `mem_audit_object`.
- **Coverage.** Main statement `audit_of_reaches`: validation comes to no schema that is not audited.
-/

namespace JsonSchema

/-! ## Subschemas -/

/-- The keywords whose value is a schema. -/
def schemaKeywords : List Keyword := [.additionalProperties, .items]

/-- The schemas inside a schema object, each with the path that leads to it: those of declared members,
then those of the other keywords. -/
def Rules.subschemas (rules : Rules) : List (Path × Value) :=
  (rules.properties?.getD []).map
      (fun m => ([.key Keyword.properties.name, .key m.1], m.2)) ++
    schemaKeywords.flatMap fun k => (rules.at? k).toList.map fun s => ([.key k.name], s)

namespace Rules

variable {rules : Rules} {path : Path} {s : Value}

theorem properties?_eq_some {declared : Members} :
    rules.properties? = some declared ↔ rules.at? .properties = some (.object declared) := by
  unfold properties?
  cases rules.at? .properties with
  | none => simp
  | some w => cases w <;> simp [Value.object?]

/-- Where a subschema comes from. -/
theorem mem_subschemas :
    (path, s) ∈ rules.subschemas ↔
      (∃ declared name, rules.at? .properties = some (.object declared) ∧ (name, s) ∈ declared ∧
        path = [.key Keyword.properties.name, .key name]) ∨
      ∃ k ∈ schemaKeywords, rules.at? k = some s ∧ path = [.key k.name] := by
  unfold subschemas
  rw [List.mem_append]
  refine or_congr ?_ ?_
  · cases h : rules.properties? with
    | none =>
        have hnone : ∀ declared, rules.at? .properties ≠ some (.object declared) :=
          fun declared hd => absurd (h ▸ properties?_eq_some.mpr hd) (by simp)
        simp [hnone]
    | some declared =>
        rw [properties?_eq_some] at h
        simp only [Option.getD_some, List.mem_map, Prod.mk.injEq, Prod.exists, h, Option.some.injEq,
          Value.object.injEq]
        constructor
        · rintro ⟨name, w, hm, rfl, rfl⟩
          exact ⟨declared, name, rfl, hm, rfl⟩
        · rintro ⟨_, name, rfl, hm, rfl⟩
          exact ⟨name, s, hm, rfl, rfl⟩
  · simp only [List.mem_flatMap, List.mem_map, Option.mem_toList, Prod.mk.injEq]
    refine exists_congr fun k => and_congr_right fun _ => ?_
    constructor
    · rintro ⟨w, hw, rfl, rfl⟩
      exact ⟨hw, rfl⟩
    · rintro ⟨hw, rfl⟩
      exact ⟨s, hw, rfl, rfl⟩

theorem sizeOf_lt_of_at? {k : Keyword} (h : rules.at? k = some s) :
    sizeOf s < sizeOf (Value.object rules) :=
  sizeOf_lt_of_mem_members (Members.mem_of_get? h)

theorem sizeOf_lt_of_mem_subschemas (h : (path, s) ∈ rules.subschemas) :
    sizeOf s < sizeOf (Value.object rules) := by
  rcases mem_subschemas.mp h with ⟨declared, name, hd, hm, -⟩ | ⟨k, -, hk, -⟩
  · exact Nat.lt_trans (sizeOf_lt_of_mem_members hm) (sizeOf_lt_of_at? hd)
  · exact sizeOf_lt_of_at? hk

end Rules

/-- **Induction over subschemas.** What holds of a schema whenever it holds of the subschemas, if it is
an object, holds of every schema. -/
@[elab_as_elim]
theorem subschema_induction {motive : Value → Prop}
    (object : ∀ rules : Rules, (∀ c ∈ rules.subschemas, motive c.2) → motive (.object rules))
    (other : ∀ schema, (∀ rules, schema ≠ .object rules) → motive schema) (schema : Value) :
    motive schema := by
  induction hn : sizeOf schema using Nat.strongRecOn generalizing schema with
  | ind n ih =>
      cases schema with
      | object rules =>
          refine object rules fun c hc => ih (sizeOf c.2) ?_ c.2 rfl
          exact hn ▸ Rules.sizeOf_lt_of_mem_subschemas hc
      | _ => exact other _ (by simp)

/-- Subschemas of a schema with unique names have unique names. -/
theorem uniqueNames_of_mem_subschemas {rules : Rules} {c : Path × Value}
    (hs : (Value.object rules).UniqueNames) (h : c ∈ rules.subschemas) : c.2.UniqueNames := by
  have hat : ∀ k x, rules.at? k = some x → x.UniqueNames := fun k x hx =>
    (Value.uniqueNames_object.mp hs).2 _ _ (Members.mem_of_get? hx)
  rcases Rules.mem_subschemas.mp h with ⟨declared, name, hd, hm, -⟩ | ⟨k, -, hk, -⟩
  · exact (Value.uniqueNames_object.mp (hat _ _ hd)).2 _ _ hm
  · exact hat _ _ hk

/-- Steps under two keywords are two steps. -/
theorem Keyword.key_injective {j k : Keyword} (h : Token.key j.name = .key k.name) : j = k :=
  Keyword.name_injective (Token.key.inj h)

/-- The path to a subschema begins with a keyword under which there are subschemas. -/
theorem head_of_mem_subschemas {rules : Rules} {c : Path × Value} (h : c ∈ rules.subschemas) :
    ∃ k rest, (k = .properties ∧ rest ≠ [] ∨ k ∈ schemaKeywords) ∧ c.1 = .key (Keyword.name k) :: rest := by
  rcases Rules.mem_subschemas.mp h with ⟨declared, name, -, -, hpath⟩ | ⟨k, hk, -, hpath⟩
  · exact ⟨.properties, [.key name], .inl ⟨rfl, by simp⟩, hpath⟩
  · exact ⟨k, [], .inr hk, hpath⟩

/-- No two subschemas stand in one place, and none inside another. -/
theorem subschemas_unique {rules : Rules} (hs : (Value.object rules).UniqueNames) {c c' : Path × Value}
    (h : c ∈ rules.subschemas) (h' : c' ∈ rules.subschemas) {p p' : Path}
    (hpath : c.1 ++ p = c'.1 ++ p') : c = c' ∧ p = p' := by
  obtain ⟨outer, s⟩ := c
  obtain ⟨outer', s'⟩ := c'
  have hproperties : ∀ k ∈ schemaKeywords, Keyword.properties.name ≠ k.name := by decide
  rcases Rules.mem_subschemas.mp h with ⟨declared, name, hat, hm, rfl⟩ | ⟨k, hk, hat, rfl⟩ <;>
    rcases Rules.mem_subschemas.mp h' with ⟨declared', name', hat', hm', rfl⟩ | ⟨k', hk', hat', rfl⟩
  · -- two declared members: one name, and names are unique
    simp only [List.cons_append, List.nil_append, List.cons.injEq, true_and, Token.key.injEq] at hpath
    obtain ⟨rfl, rfl⟩ := hpath
    rw [hat] at hat'
    cases hat'
    have hdeclared := (Value.uniqueNames_object.mp hs).2 _ _ (Members.mem_of_get? hat)
    have hnames := (Value.uniqueNames_object.mp hdeclared).1
    have hone := List.inj_on_of_nodup_map hnames hm hm' rfl
    cases hone
    exact ⟨rfl, rfl⟩
  · exact absurd (Token.key.inj (List.cons.inj hpath).1) (hproperties k' hk')
  · exact absurd (Token.key.inj (List.cons.inj hpath).1).symm (hproperties k hk)
  · simp only [List.cons_append, List.nil_append, List.cons.injEq, Token.key.injEq] at hpath
    obtain ⟨hname, rfl⟩ := hpath
    obtain rfl := Keyword.name_injective hname
    rw [hat] at hat'
    cases hat'
    exact ⟨rfl, rfl⟩

/-! ## Warnings -/

/-- A warning as it shows from further up, where a path leads to the schema that it was made in. -/
def Warning.under (path : Path) (w : Warning) : Warning := { w with path := path ++ w.path }

namespace Warning

@[simp] theorem path_under (path : Path) (w : Warning) : (w.under path).path = path ++ w.path := rfl
@[simp] theorem keyword_under (path : Path) (w : Warning) :
    (w.under path).keyword = w.keyword := rfl

@[simp] theorem under_under (p q : Path) (w : Warning) :
    (w.under q).under p = w.under (p ++ q) := by
  simp [under]

end Warning

theorem mustHold_eq_none_iff {condition : Bool} {expected : String} :
    mustHold condition expected = none ↔ condition = true := by
  cases condition <;> simp [mustHold]

theorem mustHold_eq_some_iff {condition : Bool} {expected : String} {f : Flaw} :
    mustHold condition expected = some f ↔ condition = false ∧ .mustBe expected = f := by
  cases condition <;> simp [mustHold]

/-- The trail that goes on along a path. -/
def Trail.along (trail : Trail) (path : Path) : Trail := path.foldl Trail.extend trail

@[simp] theorem Trail.toPath_along (trail : Trail) (path : Path) :
    (trail.along path).toPath = trail.toPath ++ path := by
  induction path generalizing trail with
  | nil => simp [along]
  | cons t rest ih =>
      show ((trail.extend t).along rest).toPath = _
      rw [ih, toPath_extend, List.append_assoc, List.singleton_append]

section Warnings

variable (formats : FormatRegistry)

theorem schemaWarnings_eq (trail : Trail) (declared : Members) :
    schemaWarnings formats trail declared =
      declared.flatMap fun m => warnings formats (trail.key m.1) m.2 := by
  induction declared with
  | nil => rfl
  | cons m rest ih => rw [schemaWarnings, ih, List.flatMap_cons]

theorem propertyWarnings_eq (trail : Trail) (rules : Rules) :
    propertyWarnings formats trail rules =
      schemaWarnings formats (trail.key Keyword.properties.name) (rules.properties?.getD []) := by
  unfold Rules.properties? Rules.at?
  induction rules with
  | nil => rfl
  | cons m rest ih =>
      obtain ⟨name, v⟩ := m
      by_cases hname : name = Keyword.properties.name
      · cases v <;> simp [propertyWarnings, hname, Value.object?, schemaWarnings_eq]
      · rw [Members.get?_cons, if_neg (Ne.symm hname), ← ih]
        cases v <;> simp [propertyWarnings, hname]

theorem warningsUnder_eq (k : Keyword) (trail : Trail) (rules : Rules) :
    warningsUnder formats k trail rules =
      (rules.at? k).toList.flatMap fun s => warnings formats (trail.key k.name) s := by
  unfold Rules.at?
  induction rules with
  | nil => rfl
  | cons m rest ih =>
      obtain ⟨name, v⟩ := m
      rw [warningsUnder, Members.get?_cons]
      by_cases hname : name = k.name
      · rw [if_pos hname, if_pos hname.symm, hname]
        simp
      · rw [if_neg hname, if_neg (Ne.symm hname), ih]

/-- **The step of the audit**: the members of a schema object, then its subschemas. -/
theorem warnings_eq_subschemas (trail : Trail) (rules : Rules) :
    warnings formats trail (.object rules) =
      ownWarnings formats trail.toPath rules ++
        rules.subschemas.flatMap fun c => warnings formats (trail.along c.1) c.2 := by
  rw [warnings, propertyWarnings_eq, schemaWarnings_eq, warningsUnder_eq, warningsUnder_eq]
  simp only [Rules.subschemas, schemaKeywords, List.flatMap_append, List.flatMap_map,
    List.flatMap_cons, List.flatMap_nil, List.append_nil, List.append_assoc]
  rfl

theorem ownWarnings_under (path : Path) (rules : Rules) :
    ownWarnings formats path rules = (ownWarnings formats [] rules).map (Warning.under path) := by
  simp only [ownWarnings, List.map_filterMap, Option.map_map]
  refine List.filterMap_congr fun m _ => ?_
  congr 1
  funext f
  simp [Warning.under]

/-- **The audit does not depend on where it stands.** A trail is put before each path. -/
theorem warnings_under (schema : Value) (trail : Trail) :
    warnings formats trail schema =
      (audit formats schema).map (Warning.under trail.toPath) := by
  unfold audit
  -- the trail grows on the way down, so the induction is over all trails at once
  induction schema using subschema_induction generalizing trail with
  | object rules ih =>
      rw [warnings_eq_subschemas, ownWarnings_under, warnings_eq_subschemas formats .root,
        List.map_append, List.map_flatMap, Trail.toPath_root]
      congr 1
      refine List.flatMap_congr fun c hc => ?_
      rw [ih c hc (trail.along c.1), ih c hc (Trail.root.along c.1), List.map_map]
      refine List.map_congr_left fun w _ => ?_
      simp
  | other schema hs =>
      cases schema with
      | object rules => exact absurd rfl (hs rules)
      | _ => rfl

/-- **The warnings about a schema object** are those about its members, then those about each subschema
by itself, placed under the path to it. -/
theorem audit_object (rules : Rules) :
    audit formats (.object rules) =
      ownWarnings formats [] rules ++
        rules.subschemas.flatMap fun c => (audit formats c.2).map (Warning.under c.1) := by
  rw [audit, warnings_eq_subschemas, Trail.toPath_root]
  congr 1
  refine List.flatMap_congr fun c _ => ?_
  rw [warnings_under, Trail.toPath_along, Trail.toPath_root, List.nil_append]

/-- Nothing is said of a schema that is no object. -/
theorem audit_other {schema : Value} (h : ∀ rules, schema ≠ .object rules) :
    audit formats schema = [] := by
  cases schema with
  | object rules => exact absurd rfl (h rules)
  | _ => rfl

variable {formats} {rules : Rules} {w : Warning}

theorem mem_ownWarnings {path : Path} :
    w ∈ ownWarnings formats path rules ↔
      w.path = path ∧ ∃ v, (w.keyword, v) ∈ rules ∧ memberFlaw? formats w.keyword v = some w.flaw := by
  simp only [ownWarnings, List.mem_filterMap, Option.map_eq_some_iff, Prod.exists]
  constructor
  · rintro ⟨name, v, hm, f, hf, rfl⟩
    exact ⟨rfl, v, hm, hf⟩
  · rintro ⟨rfl, v, hm, hf⟩
    exact ⟨w.keyword, v, hm, w.flaw, hf, rfl⟩

/-- A warning about a schema object is about one of its members or comes from a subschema. -/
theorem mem_audit_object :
    w ∈ audit formats (.object rules) ↔
      (w.path = [] ∧ ∃ v, (w.keyword, v) ∈ rules ∧ memberFlaw? formats w.keyword v = some w.flaw) ∨
      ∃ c ∈ rules.subschemas, ∃ w' ∈ audit formats c.2, w'.under c.1 = w := by
  rw [audit_object, List.mem_append, mem_ownWarnings]
  simp only [List.mem_flatMap, List.mem_map]

/-- A member that has a flaw is warned of. -/
theorem warned_of_flaw {k : Keyword} {x : Value} {f : Flaw} (hx : rules.at? k = some x)
    (hf : flaw? formats k x = some f) : ⟨[], k.name, f⟩ ∈ audit formats (.object rules) := by
  refine mem_audit_object.mpr (.inl ⟨rfl, x, Members.mem_of_get? hx, ?_⟩)
  rw [memberFlaw?, Keyword.ofName?_name]
  exact hf

end Warnings

/-! ## Coverage -/

/-- A part is judged by a subschema. -/
theorem Governs.mem_subschemas {rules : Rules} {v : Value} {t : Token} {s w : Value}
    (h : Governs rules v t s w) : ∃ path, (path, s) ∈ rules.subschemas := by
  cases h with
  | declared _ hd =>
      obtain ⟨declared, hat, hget⟩ := hd
      exact ⟨_, Rules.mem_subschemas.mpr (.inl ⟨declared, _, hat, Members.mem_of_get? hget, rfl⟩)⟩
  | undeclared _ _ hextra =>
      exact ⟨_, Rules.mem_subschemas.mpr (.inr ⟨_, by simp [schemaKeywords], hextra, rfl⟩)⟩
  | element _ hitems _ =>
      exact ⟨_, Rules.mem_subschemas.mpr (.inr ⟨_, by simp [schemaKeywords], hitems, rfl⟩)⟩

/-- **Validation comes to no schema that is not audited**: what the audit says of a schema that it
reaches by itself, it says of the whole schema too. -/
theorem audit_of_reaches {formats : FormatRegistry} {schema v s u : Value} {path : Path} {w : Warning}
    (h : Reaches schema v path s u) (hw : w ∈ audit formats s) :
    ∃ place, w.under place ∈ audit formats schema := by
  induction h with
  | here => exact ⟨[], hw⟩
  | step gate governs rest ih =>
      obtain ⟨inner, hinner⟩ := ih hw
      obtain ⟨outer, houter⟩ := governs.mem_subschemas
      refine ⟨outer ++ inner, mem_audit_object.mpr (.inr ⟨_, houter, _, hinner, ?_⟩)⟩
      exact Warning.under_under outer inner w

end JsonSchema
