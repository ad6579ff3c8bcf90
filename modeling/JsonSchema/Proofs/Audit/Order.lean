import JsonSchema.Proofs.Audit.Places

/-!
# `JsonSchema.Proofs.Audit.Order` — in which order the audit warns

The audit warns of the members of a schema object in their order, and then goes on to the subschemas:
first those of declared members, in their order, then that of `additionalProperties`, then that of
`items`. The document may have these three keywords in another order, so the warnings need not be in
document order. They are so exactly if, in every schema object, any two of the three keywords under
which there are warnings stand in the order of the audit.

## Contents
- **Order.** `subschemaOrder`, `PathOrder`, and `WarningOrder`, given which of two keywords is the
  first.
- **Audit order.** `audit_inOrder`: any two warnings are in the order of the audit.
- **One place.** `WarningOrder.at_place`: how warnings under two keywords of one object are ordered.
- **Document order.** Main statement `inDocumentOrder_iff`, and `items_before_properties`, where it is
  lost.
-/

namespace JsonSchema

/-! ## Order -/

/-- The keywords under which there are subschemas, as the audit goes through them. -/
def subschemaOrder : List Keyword := .properties :: schemaKeywords

/-- One keyword comes before another as the audit goes through them. -/
def VisitedBefore (_ : Rules) (j k : Keyword) : Prop := [j, k].Sublist subschemaOrder

/-- One keyword stands before another in the document. -/
def StandsBefore (rules : Rules) (j k : Keyword) : Prop := [j.name, k.name].Sublist (rules.map Prod.fst)

instance (rules : Rules) (j k : Keyword) : Decidable (VisitedBefore rules j k) :=
  inferInstanceAs (Decidable (List.Sublist [j, k] subschemaOrder))

instance (rules : Rules) (j k : Keyword) : Decidable (StandsBefore rules j k) :=
  inferInstanceAs (Decidable (List.Sublist [j.name, k.name] (rules.map Prod.fst)))

/-- One path from a schema object comes before another: it goes on under a keyword that comes first, or
with a declared member that stands further to the front. -/
inductive PathOrder (before : Rules → Keyword → Keyword → Prop) (rules : Rules) : Path → Path → Prop where
  | keyword {j k : Keyword} {p q : Path} (order : before rules j k) :
      PathOrder before rules (.key j.name :: p) (.key k.name :: q)
  | declared {declared : Members} {m n : String} {p q : Path}
      (properties : rules.at? .properties = some (.object declared))
      (order : [m, n].Sublist (declared.map Prod.fst)) :
      PathOrder before rules (.key Keyword.properties.name :: .key m :: p)
        (.key Keyword.properties.name :: .key n :: q)

/-- **One warning may come before another**: they are about one schema object, and its keyword comes
first among the members; or its object is around the other's; or in the innermost schema object around
both, the way to it comes first. -/
inductive WarningOrder (before : Rules → Keyword → Keyword → Prop) (schema : Value) :
    Warning → Warning → Prop where
  | member {w w' : Warning} {rules : Rules} (place : SchemaPlace schema w.path rules)
      (same : w.path = w'.path) (order : [w.keyword, w'.keyword].Sublist (rules.map Prod.fst)) : WarningOrder before schema w w'
  | around {w w' : Warning} (around : w.path <+: w'.path) (apart : w.path ≠ w'.path) :
      WarningOrder before schema w w'
  | apart {w w' : Warning} {path p q : Path} {rules : Rules} (place : SchemaPlace schema path rules)
      (first : w.path = path ++ p) (second : w'.path = path ++ q) (order : PathOrder before rules p q) :
      WarningOrder before schema w w'

section Order

variable {formats : FormatRegistry} {before : Rules → Keyword → Keyword → Prop} {schema : Value}
  {rules : Rules} {w w' : Warning}

/-- Warnings in a subschema keep their order when they are seen from the schema object. -/
theorem WarningOrder.under {c : Path × Value} (hc : c ∈ rules.subschemas)
    (h : WarningOrder before c.2 w w') :
    WarningOrder before (.object rules) (w.under c.1) (w'.under c.1) := by
  cases h with
  | member place same order => exact .member (place.subschema hc) (congrArg (c.1 ++ ·) same) order
  | around haround hapart =>
      refine .around ((List.prefix_append_right_inj c.1).mpr haround) fun heq => ?_
      exact hapart (List.append_cancel_left heq)
  | apart place first second order =>
      refine .apart (place.subschema hc) ?_ ?_ order
      · rw [Warning.path_under, first, List.append_assoc]
      · rw [Warning.path_under, second, List.append_assoc]

/-! ## Audit order -/

/-- The warnings about the members of one schema object are in their order. -/
theorem ownWarnings_inOrder (path : Path) :
    (ownWarnings formats path rules).Pairwise
      fun w w' => [w.keyword, w'.keyword].Sublist (rules.map Prod.fst) := by
  rw [ownWarnings, List.pairwise_filterMap, List.pairwise_iff_forall_sublist]
  intro m n hsub w hw w' hw'
  obtain ⟨f, -, rfl⟩ := Option.map_eq_some_iff.mp hw
  obtain ⟨f', -, rfl⟩ := Option.map_eq_some_iff.mp hw'
  exact hsub.map Prod.fst

/-- The audit goes through the subschemas keyword by keyword, and through declared members in their
order. -/
theorem subschemas_inOrder (rules : Rules) :
    rules.subschemas.Pairwise fun c d => ∀ p q, PathOrder VisitedBefore rules (c.1 ++ p) (d.1 ++ q) := by
  rw [Rules.subschemas, List.pairwise_append]
  refine ⟨?_, ?_, ?_⟩
  · -- two declared members
    cases hproperties : rules.properties? with
    | none => exact .nil
    | some declared =>
        rw [Option.getD_some, List.pairwise_map, List.pairwise_iff_forall_sublist]
        intro m n hsub p q
        exact .declared (Rules.properties?_eq_some.mp hproperties) (hsub.map Prod.fst)
  · -- two other keywords
    have hkeywords : schemaKeywords.Pairwise fun j k => [j, k].Sublist subschemaOrder :=
      List.pairwise_iff_forall_sublist.mpr fun hsub => hsub.trans (List.sublist_cons_self _ _)
    rw [List.pairwise_flatMap]
    refine ⟨fun k _ => ?_, hkeywords.imp fun hsub c hc d hd p q => ?_⟩
    · cases rules.at? k with
      | none => exact .nil
      | some s => exact List.pairwise_singleton _ _
    · obtain ⟨s, -, rfl⟩ := List.mem_map.mp hc
      obtain ⟨s', -, rfl⟩ := List.mem_map.mp hd
      exact .keyword hsub
  · -- a declared member and another keyword
    intro c hc d hd p q
    obtain ⟨m, -, rfl⟩ := List.mem_map.mp hc
    obtain ⟨k, hk, hd⟩ := List.mem_flatMap.mp hd
    obtain ⟨s, -, rfl⟩ := List.mem_map.mp hd
    exact .keyword (List.cons_sublist_cons.mpr (List.singleton_sublist.mpr hk))

/-- **Any two warnings are in the order of the audit.** -/
theorem audit_inOrder (formats : FormatRegistry) (schema : Value) :
    (audit formats schema).Pairwise (WarningOrder VisitedBefore schema) := by
  induction schema using subschema_induction with
  | object rules ih =>
      rw [audit_object, List.pairwise_append, List.pairwise_flatMap]
      refine ⟨?_, ⟨fun c hc => ?_, ?_⟩, ?_⟩
      · -- at the object itself
        refine (ownWarnings_inOrder []).imp_of_mem fun hw hw' hsub => ?_
        have hpath := (mem_ownWarnings.mp hw).1
        refine .member (hpath ▸ .here) (hpath.trans (mem_ownWarnings.mp hw').1.symm) hsub
      · -- inside one subschema
        rw [List.pairwise_map]
        exact (ih c hc).imp fun h => h.under hc
      · -- in one subschema and a later one
        refine (subschemas_inOrder rules).imp ?_
        intro c d hcd w hw w' hw'
        obtain ⟨u, -, rfl⟩ := List.mem_map.mp hw
        obtain ⟨u', -, rfl⟩ := List.mem_map.mp hw'
        exact .apart .here rfl rfl (hcd u.path u'.path)
      · -- at the object itself and in a subschema
        intro w hw w' hw'
        obtain ⟨c, hc, hmem⟩ := List.mem_flatMap.mp hw'
        obtain ⟨u, -, rfl⟩ := List.mem_map.mp hmem
        obtain ⟨k, rest, -, hhead⟩ := head_of_mem_subschemas hc
        have hroot := (mem_ownWarnings.mp hw).1
        refine .around (hroot ▸ List.nil_prefix) ?_
        rw [hroot, Warning.path_under, hhead]
        exact (List.cons_ne_nil _ _).symm
  | other schema hother =>
      rw [audit_other formats hother]
      exact .nil

/-! ## One place -/

/-- Two paths part in one place only. -/
theorem Path.parting_unique {a b p q p' q' : Path} {t u t' u' : Token}
    (first : a ++ t :: p = b ++ t' :: p') (second : a ++ u :: q = b ++ u' :: q') (apart : t ≠ u)
    (apart' : t' ≠ u') : a = b ∧ t = t' ∧ u = u' := by
  induction a generalizing b with
  | nil =>
      cases b with
      | nil => exact ⟨rfl, (List.cons.inj first).1, (List.cons.inj second).1⟩
      | cons x b => exact absurd ((List.cons.inj first).1.trans (List.cons.inj second).1.symm) apart
  | cons x a ih =>
      cases b with
      | nil => exact absurd ((List.cons.inj first).1.symm.trans (List.cons.inj second).1) apart'
      | cons y b =>
          obtain ⟨rfl, hfirst⟩ := List.cons.inj first
          obtain ⟨rfl, hrest⟩ := ih hfirst (List.cons.inj second).2
          exact ⟨rfl, hrest⟩

section Sublists

variable {α : Type} {l : List α} {x y : α}

/-- In a list without repetitions, nothing stands before itself. -/
theorem ne_of_sublist (hl : l.Nodup) (h : [x, y].Sublist l) : x ≠ y := by
  have hpair := hl.sublist h
  exact fun hxy => (List.nodup_cons.mp hpair).1 (List.mem_singleton.mpr hxy)

/-- In a list without repetitions, of two entries only one stands before the other. -/
theorem sublist_asymm (hl : l.Nodup) (h : [x, y].Sublist l) : ¬[y, x].Sublist l := by
  induction hl with
  | nil => exact absurd h (by simp)
  | @cons z l hz hl ih =>
      have hhead : ∀ a ∈ l, z ≠ a := hz
      intro h'
      cases h with
      | cons _ hxy =>
          cases h' with
          | cons _ hyx => exact ih hxy hyx
          | cons_cons _ hyx => exact hhead _ (hxy.subset (by simp)) rfl
      | cons_cons _ hy =>
          cases h' with
          | cons _ hyx => exact hhead _ (hyx.subset (by simp)) rfl
          | cons_cons _ hyx => exact hhead _ (hy.subset (by simp)) rfl

end Sublists

/-- Declared members of which one stands before the other have two names. -/
theorem ne_of_declared (hrules : (Value.object rules).UniqueNames) {declared : Members} {m n : String}
    (properties : rules.at? .properties = some (.object declared))
    (order : [m, n].Sublist (declared.map Prod.fst)) : m ≠ n := by
  have hdeclared := (Value.uniqueNames_object.mp hrules).2 _ _ (Members.mem_of_get? properties)
  exact ne_of_sublist (Value.uniqueNames_object.mp hdeclared).1 order

/-- **Warnings under two keywords of one object** are ordered like the keywords. -/
theorem WarningOrder.at_place (hs : schema.UniqueNames)
    (distinct : ∀ path rules, SchemaPlace schema path rules → ∀ j k, before rules j k → j ≠ k)
    {path p q : Path} {j k : Keyword} (place : SchemaPlace schema path rules) (hjk : j ≠ k)
    (hw : w.path = path ++ .key j.name :: p) (hw' : w'.path = path ++ .key k.name :: q)
    (h : WarningOrder before schema w w') : before rules j k := by
  have hkeys : Token.key j.name ≠ .key k.name := fun hkey => hjk (Keyword.key_injective hkey)
  cases h with
  | member _ same _ =>
      rw [hw, hw'] at same
      exact absurd (List.cons.inj (List.append_cancel_left same)).1 hkeys
  | around around _ =>
      rw [hw, hw', List.prefix_append_right_inj] at around
      exact absurd (List.cons_prefix_cons.mp around).1 hkeys
  | @apart path' _ _ own place' first second order =>
      rw [hw] at first
      rw [hw'] at second
      cases order with
      | @keyword j' k' p' q' order =>
          have hne := distinct _ _ place' _ _ order
          have hkeys' : Token.key j'.name ≠ .key k'.name := fun hkey => hne (Keyword.key_injective hkey)
          obtain ⟨rfl, hj, hk⟩ := Path.parting_unique first second hkeys hkeys'
          obtain rfl := Keyword.key_injective hj
          obtain rfl := Keyword.key_injective hk
          obtain rfl := place.unique hs place'
          exact order
      | @declared declared m n p' q' properties order =>
          -- they would part below `properties`, where there is no schema object
          have hmn := ne_of_declared (place'.uniqueNames hs) properties order
          rw [List.append_cons path'] at first second
          have hpath := (Path.parting_unique first second hkeys fun hkey => hmn (Token.key.inj hkey)).1
          exact absurd (place'.within hs (hpath ▸ place)) not_schemaPlace_properties

/-! ## Document order -/

/-- There is a warning about a place, or about one below it. -/
def WarnedUnder (formats : FormatRegistry) (schema : Value) (path : Path) : Prop :=
  ∃ w ∈ audit formats schema, path <+: w.path

theorem VisitedBefore.ne {j k : Keyword} (h : VisitedBefore rules j k) : j ≠ k :=
  ne_of_sublist (by decide) h

theorem VisitedBefore.asymm {j k : Keyword} (h : VisitedBefore rules j k) : ¬VisitedBefore rules k j :=
  sublist_asymm (by decide) h

theorem StandsBefore.ne (hrules : (Value.object rules).UniqueNames) {j k : Keyword}
    (h : StandsBefore rules j k) : j ≠ k :=
  fun hjk => ne_of_sublist (Value.uniqueNames_object.mp hrules).1 h (congrArg Keyword.name hjk)

/-- Where warnings are in document order, keywords stand in the order of the audit. -/
theorem standsBefore_of_inDocumentOrder (hs : schema.UniqueNames)
    (hdocument : (audit formats schema).Pairwise (WarningOrder StandsBefore schema)) {path : Path}
    (place : SchemaPlace schema path rules) {j k : Keyword} (hvisited : VisitedBefore rules j k)
    (hj : WarnedUnder formats schema (path ++ [.key j.name]))
    (hk : WarnedUnder formats schema (path ++ [.key k.name])) : StandsBefore rules j k := by
  obtain ⟨w, hw, p, hp⟩ := hj
  obtain ⟨w', hw', q, hq⟩ := hk
  rw [← List.append_cons] at hp hq
  -- of all warnings under the two keywords, those under `j` come first in both orders
  have hall := List.Pairwise.forall_of_forall_of_flip (l := audit formats schema)
    (R := fun w w' => w.path = path ++ .key j.name :: p → w'.path = path ++ .key k.name :: q →
      StandsBefore rules j k) ?_ ?_ ?_
  · exact hall hw hw' hp.symm hq.symm
  · intro u _ hj hk
    have hname := (List.cons.inj (List.append_cancel_left (hj.symm.trans hk))).1
    exact absurd (Keyword.key_injective hname) hvisited.ne
  · refine hdocument.imp fun h hj hk => ?_
    refine h.at_place hs (fun _ _ at' _ _ => ?_) place hvisited.ne hj hk
    exact StandsBefore.ne (at'.uniqueNames hs)
  · refine (audit_inOrder formats schema).imp fun h hj hk => ?_
    have hback := h.at_place hs (fun _ _ _ _ _ => VisitedBefore.ne) place hvisited.ne.symm hk hj
    exact absurd hback hvisited.asymm

/-- Where keywords stand in the order of the audit, warnings are in document order. -/
theorem inDocumentOrder_of_standsBefore
    (hkeywords : ∀ path rules, SchemaPlace schema path rules → ∀ j k, VisitedBefore rules j k →
      WarnedUnder formats schema (path ++ [.key j.name]) →
      WarnedUnder formats schema (path ++ [.key k.name]) → StandsBefore rules j k) :
    (audit formats schema).Pairwise (WarningOrder StandsBefore schema) := by
  refine (audit_inOrder formats schema).imp_of_mem fun {w w'} hw hw' horder => ?_
  cases horder with
  | member place same order => exact .member place same order
  | around haround hapart => exact .around haround hapart
  | @apart path _ _ own place first second order =>
      refine .apart place first second ?_
      cases order with
      | declared properties order => exact .declared properties order
      | @keyword j k p q order =>
          refine .keyword (hkeywords path own place j k order ⟨w, hw, p, ?_⟩ ⟨w', hw', q, ?_⟩)
          · rw [first, ← List.append_cons]
          · rw [second, ← List.append_cons]

/-- **When warnings are in document order**: they come in the order of the audit, and this is the order
of the document if and only if, in every schema object, of two keywords under which there are warnings
the one that is visited first stands first. -/
theorem inDocumentOrder_iff (formats : FormatRegistry) {schema : Value} (hs : schema.UniqueNames) :
    (audit formats schema).Pairwise (WarningOrder VisitedBefore schema) ∧
      ((audit formats schema).Pairwise (WarningOrder StandsBefore schema) ↔
        ∀ path rules, SchemaPlace schema path rules → ∀ j k, VisitedBefore rules j k →
          WarnedUnder formats schema (path ++ [.key j.name]) →
          WarnedUnder formats schema (path ++ [.key k.name]) → StandsBefore rules j k) := by
  refine ⟨audit_inOrder formats schema, fun hdocument => ?_, inDocumentOrder_of_standsBefore⟩
  exact fun _ _ place _ _ => standsBefore_of_inDocumentOrder hs hdocument place

/-- A schema in which `items` stands before `properties`. -/
def itemsFirst : Value :=
  .object
    [("items", .object [("foo", .bool true)]),
      ("properties", .object [("a", .object [("bar", .bool true)])])]

theorem itemsFirst_uniqueNames : itemsFirst.UniqueNames := by
  simp [itemsFirst, or_imp, forall_and]

theorem audit_itemsFirst : audit .empty itemsFirst =
    [⟨[.key "properties", .key "a"], "bar", .unrecognized⟩, ⟨[.key "items"], "foo", .unrecognized⟩] := rfl

theorem inDocumentOrder_iff_itemsFirst :
    itemsFirst.UniqueNames ∧
      (audit .empty itemsFirst).Pairwise (WarningOrder VisitedBefore itemsFirst) ∧
        ((audit .empty itemsFirst).Pairwise (WarningOrder StandsBefore itemsFirst) ↔
          ∀ path rules, SchemaPlace itemsFirst path rules → ∀ j k, VisitedBefore rules j k →
            WarnedUnder .empty itemsFirst (path ++ [.key j.name]) →
            WarnedUnder .empty itemsFirst (path ++ [.key k.name]) → StandsBefore rules j k) :=
  ⟨itemsFirst_uniqueNames, inDocumentOrder_iff .empty itemsFirst_uniqueNames⟩

/-- **The order of the document is lost** where `items` stands before `properties`. -/
theorem items_before_properties :
    itemsFirst.UniqueNames ∧
      ¬(audit .empty itemsFirst).Pairwise (WarningOrder StandsBefore itemsFirst) := by
  refine ⟨itemsFirst_uniqueNames, fun hdocument => ?_⟩
  have hbar : WarnedUnder .empty itemsFirst [.key "properties"] :=
    ⟨⟨[.key "properties", .key "a"], "bar", .unrecognized⟩, by simp [audit_itemsFirst], [.key "a"], rfl⟩
  have hfoo : WarnedUnder .empty itemsFirst [.key "items"] :=
    ⟨⟨[.key "items"], "foo", .unrecognized⟩, by simp [audit_itemsFirst], [], rfl⟩
  have hlost := standsBefore_of_inDocumentOrder itemsFirst_uniqueNames hdocument .here
    (j := .properties) (k := .items) (by decide) hbar hfoo
  exact absurd hlost (by decide)

end Order

end JsonSchema
