import JsonSchema.Proofs.Audit.Subschemas
import JsonSchema.Proofs.Json.Pointer

/-!
# `JsonSchema.Proofs.Audit.Places` — where the audit comes

The audit starts at a schema object and goes on to the subschemas that are objects themselves: under the
names of `properties`, under `additionalProperties`, and under `items`. `SchemaPlace` says which schema
object stands at the end of such a path, without the walk. A warning is about a flawed member of the
object at its path, and each such member is warned of.

## Contents
- **Places.** `SchemaPlace`, and `schemaPlace_object_iff`: one step down.
- **One object.** `SchemaPlace.follow`, `SchemaPlace.unique`, `SchemaPlace.uniqueNames`,
  `SchemaPlace.within`.
- **Warnings.** Main statement `mem_audit_iff`.
-/

namespace JsonSchema

/-! ## Places -/

/-- **Where the audit comes.** It stands at a schema object, and goes on to the schema of a declared
member, or to the schema of a keyword that has one. -/
inductive SchemaPlace : Value → Path → Rules → Prop where
  | here {rules : Rules} : SchemaPlace (.object rules) [] rules
  | declared {rules : Rules} {declared : Members} {name : String} {s : Value} {path : Path} {own : Rules}
      (properties : rules.at? .properties = some (.object declared)) (member : (name, s) ∈ declared)
      (rest : SchemaPlace s path own) :
      SchemaPlace (.object rules) (.key Keyword.properties.name :: .key name :: path) own
  | keyword {rules : Rules} {k : Keyword} {s : Value} {path : Path} {own : Rules}
      (holds : k ∈ schemaKeywords) (value : rules.at? k = some s) (rest : SchemaPlace s path own) :
      SchemaPlace (.object rules) (.key k.name :: path) own

section Places

variable {schema : Value} {rules own : Rules} {path p q : Path} {c : Path × Value}

/-- The audit goes on to every subschema. -/
theorem SchemaPlace.subschema (hc : c ∈ rules.subschemas) (h : SchemaPlace c.2 path own) :
    SchemaPlace (.object rules) (c.1 ++ path) own := by
  obtain ⟨outer, s⟩ := c
  rcases Rules.mem_subschemas.mp hc with ⟨declared, name, hat, hm, rfl⟩ | ⟨k, hk, hat, rfl⟩
  · exact .declared hat hm h
  · exact .keyword hk hat h

/-- **One step down**: the audit stays at a schema object or goes on to a subschema. -/
theorem schemaPlace_object_iff :
    SchemaPlace (.object rules) path own ↔
      (path = [] ∧ own = rules) ∨
        ∃ c ∈ rules.subschemas, ∃ rest, path = c.1 ++ rest ∧ SchemaPlace c.2 rest own := by
  constructor
  · intro h
    cases h with
    | here => exact .inl ⟨rfl, rfl⟩
    | declared hat hm rest =>
        exact .inr ⟨_, Rules.mem_subschemas.mpr (.inl ⟨_, _, hat, hm, rfl⟩), _, rfl, rest⟩
    | keyword hk hat rest => exact .inr ⟨_, Rules.mem_subschemas.mpr (.inr ⟨_, hk, hat, rfl⟩), _, rfl, rest⟩
  · rintro (⟨rfl, rfl⟩ | ⟨c, hc, rest, rfl, h⟩)
    · exact .here
    · exact h.subschema hc

theorem SchemaPlace.eq_object (h : SchemaPlace schema path own) : ∃ rules, schema = .object rules := by
  cases h with
  | here | declared | keyword => exact ⟨_, rfl⟩

/-- The object of the declared members is no schema object itself. -/
theorem not_schemaPlace_properties : ¬SchemaPlace (.object rules) [.key Keyword.properties.name] own := by
  intro h
  rcases schemaPlace_object_iff.mp h with ⟨hnil, -⟩ | ⟨c, hc, rest, hstep, -⟩
  · cases hnil
  · obtain ⟨k, tail, hk, hhead⟩ := head_of_mem_subschemas hc
    rw [hhead, List.cons_append] at hstep
    obtain ⟨hname, htail⟩ := List.cons.inj hstep
    rcases hk with ⟨-, hne⟩ | hmem
    · exact hne (List.append_eq_nil_iff.mp htail.symm).1
    · obtain rfl := Keyword.key_injective hname
      exact absurd hmem (by decide)

/-! ## One object -/

/-- **The tokens of a place lead to the schema object.** -/
theorem SchemaPlace.follow (hs : schema.UniqueNames) (h : SchemaPlace schema path own) :
    schema.follow path = some (.object own) := by
  induction h with
  | here => rfl
  | @declared rules declared name s path own hat hm rest ih =>
      have hdeclared := (Value.uniqueNames_object.mp hs).2 _ _ (Members.mem_of_get? hat)
      obtain ⟨hnames, heach⟩ := Value.uniqueNames_object.mp hdeclared
      have hget : Members.get? declared name = some s := Members.get?_of_mem hnames hm
      show (rules.at? .properties).bind (fun v => (v.child? (.key name)).bind fun w => w.follow path) = _
      rw [hat, Option.bind_some]
      show (Members.get? declared name).bind (fun w => w.follow path) = _
      rw [hget, Option.bind_some]
      exact ih (heach _ _ hm)
  | @keyword rules k s path own hk hat rest ih =>
      show (rules.at? k).bind (fun w => w.follow path) = _
      rw [hat, Option.bind_some]
      exact ih ((Value.uniqueNames_object.mp hs).2 _ _ (Members.mem_of_get? hat))

theorem SchemaPlace.unique {own' : Rules} (hs : schema.UniqueNames) (h : SchemaPlace schema path own)
    (h' : SchemaPlace schema path own') : own = own' :=
  Value.object.inj (Option.some.inj ((h.follow hs).symm.trans (h'.follow hs)))

theorem SchemaPlace.uniqueNames (hs : schema.UniqueNames) (h : SchemaPlace schema path own) :
    (Value.object own).UniqueNames := by
  induction schema using subschema_induction generalizing path with
  | object rules ih =>
      rcases schemaPlace_object_iff.mp h with ⟨-, rfl⟩ | ⟨c, hc, rest, -, hrest⟩
      · exact hs
      · exact ih c hc (uniqueNames_of_mem_subschemas hs hc) hrest
  | other schema hother =>
      obtain ⟨rules, rfl⟩ := h.eq_object
      exact absurd rfl (hother rules)

/-- Where two places are on one way, the second is a place of the schema object at the first. -/
theorem SchemaPlace.within {own' : Rules} (hs : schema.UniqueNames) (h : SchemaPlace schema p own)
    (h' : SchemaPlace schema (p ++ q) own') : SchemaPlace (.object own) q own' := by
  induction schema using subschema_induction generalizing p with
  | object rules ih =>
      rcases schemaPlace_object_iff.mp h with ⟨rfl, rfl⟩ | ⟨c, hc, rest, rfl, hrest⟩
      · exact h'
      · rcases schemaPlace_object_iff.mp h' with ⟨hnil, -⟩ | ⟨c', hc', rest', hpath, hrest'⟩
        · obtain ⟨k, tail, -, hhead⟩ := head_of_mem_subschemas hc
          rw [hhead] at hnil
          cases hnil
        · rw [List.append_assoc] at hpath
          obtain ⟨rfl, rfl⟩ := subschemas_unique hs hc hc' hpath
          exact ih c hc (uniqueNames_of_mem_subschemas hs hc) hrest hrest'
  | other schema hother =>
      obtain ⟨rules, rfl⟩ := h.eq_object
      exact absurd rfl (hother rules)

/-! ## Warnings -/

/-- **What is warned of**: the flawed members of the schema objects to which the audit comes. -/
theorem mem_audit_iff {formats : FormatRegistry} {w : Warning} :
    w ∈ audit formats schema ↔
      ∃ own, SchemaPlace schema w.path own ∧
        ∃ v, (w.keyword, v) ∈ own ∧ memberFlaw? formats w.keyword v = some w.flaw := by
  induction schema using subschema_induction generalizing w with
  | object rules ih =>
      rw [mem_audit_object]
      constructor
      · rintro (⟨hpath, hflaw⟩ | ⟨c, hc, w', hw', rfl⟩)
        · exact ⟨rules, schemaPlace_object_iff.mpr (.inl ⟨hpath, rfl⟩), hflaw⟩
        · obtain ⟨own, hplace, hflaw⟩ := (ih c hc).mp hw'
          exact ⟨own, hplace.subschema hc, hflaw⟩
      · rintro ⟨own, hplace, hflaw⟩
        rcases schemaPlace_object_iff.mp hplace with ⟨hpath, rfl⟩ | ⟨c, hc, rest, hpath, hrest⟩
        · exact .inl ⟨hpath, hflaw⟩
        · refine .inr ⟨c, hc, ⟨rest, w.keyword, w.flaw⟩, (ih c hc).mpr ⟨own, hrest, hflaw⟩, ?_⟩
          rw [Warning.under, ← hpath]
  | other schema hother =>
      rw [audit_other formats hother]
      constructor
      · exact fun h => absurd h List.not_mem_nil
      · rintro ⟨own, hplace, -⟩
        obtain ⟨rules, rfl⟩ := hplace.eq_object
        exact absurd rfl (hother rules)

end Places

end JsonSchema
