import Mathlib.Data.List.Dedup
import JsonSchema.Proofs.Json.UniqueNames
import JsonSchema.Yaml.Conversion

/-!
# `JsonSchema.Proofs.Yaml.Parts` — the conversion of a YAML tree from that of its parts

A sequence is converted item by item. A mapping is converted entry by entry, each into a row of a name and
a value, and the rows are then set one after the other. So an entry can be lost in one way only: a later row
has its name.

The parts of a tree are the items of sequences and the values of entries, under any tags. Keys are no parts:
a key becomes a name, or nothing.

## Contents
- **Members set in turn.** `Members.setAll`, and the names that it leaves.
- **Induction.** `Tree.nested_induction`: over items, keys and values at once.
- **Parts.** `Tree.Holds`: what stands in a tree outside of keys.
- **Conversion.** `toElements_eq_ok_iff`, `Tree.Becomes`, `toMembers_eq_ok_iff`.
-/

namespace JsonSchema

/-! ## Members set in turn -/

namespace Members

/-- Members after rows of a name and a value have been set, one after the other. -/
def setAll (members : Members) (rows : List (String × Value)) : Members :=
  rows.foldl (fun set r => set.insert r.1 r.2) members

variable {members : Members} {rows : List (String × Value)}

theorem nodup_setAll (h : (members.map Prod.fst).Nodup) (rows : List (String × Value)) :
    ((members.setAll rows).map Prod.fst).Nodup := by
  induction rows generalizing members with
  | nil => exact h
  | cons r rest ih => exact ih (nodup_insert h r.1 r.2)

theorem mem_map_fst_setAll {name : String} :
    name ∈ (members.setAll rows).map Prod.fst ↔ name ∈ members.map Prod.fst ∨ name ∈ rows.map Prod.fst := by
  induction rows generalizing members with
  | nil => exact ⟨Or.inl, fun h => h.elim id fun hnil => absurd hnil List.not_mem_nil⟩
  | cons r rest ih =>
      have hinsert : name ∈ (members.insert r.1 r.2).map Prod.fst ↔
          name ∈ members.map Prod.fst ∨ name = r.1 := by
        rw [map_fst_insert]
        by_cases hmem : r.1 ∈ members.map Prod.fst
        · rw [if_pos hmem]
          exact ⟨Or.inl, fun h => h.elim id fun heq => heq ▸ hmem⟩
        · rw [if_neg hmem, List.mem_append, List.mem_singleton]
      have hrest : name ∈ ((members.insert r.1 r.2).setAll rest).map Prod.fst ↔ _ := ih
      rw [setAll, List.foldl_cons, ← setAll, hrest, hinsert, List.map_cons, List.mem_cons, or_assoc]

/-- **Rows of different names are all kept**, in their order. -/
theorem setAll_of_nodup (h : ((members ++ rows).map Prod.fst).Nodup) :
    members.setAll rows = members ++ rows := by
  induction rows generalizing members with
  | nil => rw [List.append_nil]; rfl
  | cons r rest ih =>
      have hnew : r.1 ∉ members.map Prod.fst := by
        rw [List.map_append, List.map_cons] at h
        exact fun hmem => (List.nodup_append.mp h).2.2 _ hmem _ List.mem_cons_self rfl
      rw [List.append_cons] at h ⊢
      rw [setAll, List.foldl_cons, ← setAll, insert_of_new hnew]
      exact ih h

/-- **Rows are all kept only if their names are different.** -/
theorem nodup_of_length_setAll (h : (setAll [] rows).length = rows.length) :
    (rows.map Prod.fst).Nodup := by
  have hnone : (([] : Members).map Prod.fst).Nodup := List.nodup_nil
  have hperm : ((setAll [] rows).map Prod.fst).Perm (rows.map Prod.fst).dedup := by
    refine (List.perm_ext_iff_of_nodup (nodup_setAll hnone rows) (List.nodup_dedup _)).mpr ?_
    intro name
    rw [mem_map_fst_setAll, List.mem_dedup]
    exact or_iff_right List.not_mem_nil
  have hlength : (rows.map Prod.fst).dedup.length = (rows.map Prod.fst).length := by
    rw [← hperm.length_eq, List.length_map, List.length_map, h]
  rw [← List.dedup_eq_self]
  exact (List.dedup_sublist _).eq_of_length hlength

end Members

namespace Yaml.Tree

/-! ## Induction -/

/-- **Induction over trees.** What holds of a tree whenever it holds of its items, of the keys and values
of its entries, and of the tree under its tag, holds of every tree. -/
@[elab_as_elim]
theorem nested_induction {motive : Tree → Prop} (null : motive .null)
    (bool : ∀ flag, motive (.bool flag)) (number : ∀ n, motive (.number n))
    (string : ∀ text, motive (.string text))
    (sequence : ∀ items, (∀ t ∈ items, motive t) → motive (.sequence items))
    (mapping : ∀ entries, (∀ e ∈ entries, motive e.1 ∧ motive e.2) → motive (.mapping entries))
    (tagged : ∀ tag t, motive t → motive (.tagged tag t)) (tree : Tree) : motive tree := by
  induction hn : sizeOf tree using Nat.strongRecOn generalizing tree with
  | ind n ih =>
      subst hn
      cases tree with
      | null => exact null
      | bool flag => exact bool flag
      | number n => exact number n
      | string text => exact string text
      | sequence items =>
          refine sequence items fun t ht => ih (sizeOf t) ?_ t rfl
          have hitem := List.sizeOf_lt_of_mem ht
          rw [Tree.sequence.sizeOf_spec]
          omega
      | mapping entries =>
          refine mapping entries fun e he => ?_
          have hentry := List.sizeOf_lt_of_mem he
          obtain ⟨key, value⟩ := e
          rw [Prod.mk.sizeOf_spec] at hentry
          refine ⟨ih (sizeOf key) ?_ key rfl, ih (sizeOf value) ?_ value rfl⟩ <;>
            rw [Tree.mapping.sizeOf_spec] <;> omega
      | tagged tag t =>
          refine tagged tag t (ih (sizeOf t) ?_ t rfl)
          rw [Tree.tagged.sizeOf_spec]
          omega

/-! ## Parts -/

/-- A tree stands in another one, at any depth and under any tags, but not inside a key. -/
inductive Holds : Tree → Tree → Prop where
  | here (t : Tree) : Holds t t
  | tagged {tag : String} {t part : Tree} (rest : Holds t part) : Holds (.tagged tag t) part
  | item {items : List Tree} {t part : Tree} (mem : t ∈ items) (rest : Holds t part) :
      Holds (.sequence items) part
  | entry {entries : List (Tree × Tree)} {e : Tree × Tree} {part : Tree} (mem : e ∈ entries)
      (rest : Holds e.2 part) : Holds (.mapping entries) part

section

variable {part : Tree} {P : Tree → Prop}

@[simp] theorem holds_null : Holds .null part ↔ part = .null :=
  ⟨fun h => by cases h; rfl, fun h => h ▸ .here _⟩

@[simp] theorem holds_bool {flag : Bool} : Holds (.bool flag) part ↔ part = .bool flag :=
  ⟨fun h => by cases h; rfl, fun h => h ▸ .here _⟩

@[simp] theorem holds_number {n : TreeNumber} : Holds (.number n) part ↔ part = .number n :=
  ⟨fun h => by cases h; rfl, fun h => h ▸ .here _⟩

@[simp] theorem holds_string {text : String} : Holds (.string text) part ↔ part = .string text :=
  ⟨fun h => by cases h; rfl, fun h => h ▸ .here _⟩

@[simp] theorem holds_sequence {items : List Tree} :
    Holds (.sequence items) part ↔ part = .sequence items ∨ ∃ t ∈ items, t.Holds part := by
  constructor
  · intro h
    cases h with
    | here => exact Or.inl rfl
    | item mem rest => exact Or.inr ⟨_, mem, rest⟩
  · rintro (rfl | ⟨t, mem, rest⟩)
    · exact .here _
    · exact .item mem rest

@[simp] theorem holds_mapping {entries : List (Tree × Tree)} :
    Holds (.mapping entries) part ↔ part = .mapping entries ∨ ∃ e ∈ entries, e.2.Holds part := by
  constructor
  · intro h
    cases h with
    | here => exact Or.inl rfl
    | entry mem rest => exact Or.inr ⟨_, mem, rest⟩
  · rintro (rfl | ⟨e, mem, rest⟩)
    · exact .here _
    · exact .entry mem rest

@[simp] theorem holds_tagged {tag : String} {t : Tree} :
    Holds (.tagged tag t) part ↔ part = .tagged tag t ∨ t.Holds part := by
  constructor
  · intro h
    cases h with
    | here => exact Or.inl rfl
    | tagged rest => exact Or.inr rest
  · rintro (rfl | rest)
    · exact .here _
    · exact .tagged rest

theorem exists_holds_sequence {items : List Tree} :
    (∃ part, Holds (.sequence items) part ∧ P part) ↔
      P (.sequence items) ∨ ∃ t ∈ items, ∃ part, t.Holds part ∧ P part := by
  constructor
  · rintro ⟨part, hholds, hpart⟩
    obtain rfl | ⟨t, ht, hrest⟩ := holds_sequence.mp hholds
    · exact Or.inl hpart
    · exact Or.inr ⟨t, ht, part, hrest, hpart⟩
  · rintro (hself | ⟨t, ht, part, hrest, hpart⟩)
    · exact ⟨_, .here _, hself⟩
    · exact ⟨part, .item ht hrest, hpart⟩

theorem exists_holds_mapping {entries : List (Tree × Tree)} :
    (∃ part, Holds (.mapping entries) part ∧ P part) ↔
      P (.mapping entries) ∨ ∃ e ∈ entries, ∃ part, e.2.Holds part ∧ P part := by
  constructor
  · rintro ⟨part, hholds, hpart⟩
    obtain rfl | ⟨e, he, hrest⟩ := holds_mapping.mp hholds
    · exact Or.inl hpart
    · exact Or.inr ⟨e, he, part, hrest, hpart⟩
  · rintro (hself | ⟨e, he, part, hrest, hpart⟩)
    · exact ⟨_, .here _, hself⟩
    · exact ⟨part, .entry he hrest, hpart⟩

end

/-! ## Conversion -/

theorem map_eq_ok_iff {ε α β : Type} {f : α → β} {x : Except ε α} {b : β} :
    x.map f = .ok b ↔ ∃ a, x = .ok a ∧ f a = b := by
  cases x <;> simp [Except.map]

theorem toElements_eq_ok_iff {items : List Tree} {elements : List Value} :
    toElements items = .ok elements ↔ List.Forall₂ (fun t v => t.toValue = .ok v) items elements := by
  induction items generalizing elements with
  | nil =>
      rw [toElements, List.forall₂_nil_left_iff]
      exact ⟨fun h => (Except.ok.inj h).symm, fun h => h ▸ rfl⟩
  | cons t rest ih =>
      rw [toElements, List.forall₂_cons_left_iff]
      constructor
      · intro h
        cases ht : t.toValue with
        | error e => rw [ht] at h; cases h
        | ok v =>
            rw [ht] at h
            obtain ⟨vs, hrest, rfl⟩ := map_eq_ok_iff.mp h
            exact ⟨v, vs, rfl, ih.mp hrest, rfl⟩
      · rintro ⟨v, vs, ht, hrest, rfl⟩
        rw [ht, ih.mpr hrest]
        rfl

/-- An entry becomes a row of a name and a value. -/
def Becomes (e : Tree × Tree) (r : String × Value) : Prop :=
  e.1.memberName = .ok r.1 ∧ e.2.toValue = .ok r.2

theorem toMembers_eq_ok_iff {members set : Members} {entries : List (Tree × Tree)} :
    toMembers members entries = .ok set ↔
      ∃ rows, List.Forall₂ Becomes entries rows ∧ set = members.setAll rows := by
  induction entries generalizing members with
  | nil =>
      rw [toMembers]
      constructor
      · intro h
        exact ⟨[], .nil, (Except.ok.inj h).symm⟩
      · rintro ⟨rows, hrows, rfl⟩
        cases hrows
        rfl
  | cons e rest ih =>
      obtain ⟨key, value⟩ := e
      rw [toMembers]
      constructor
      · intro h
        cases hkey : key.memberName with
        | error e => rw [hkey] at h; cases h
        | ok name =>
            cases hvalue : value.toValue with
            | error e => rw [hkey, hvalue] at h; cases h
            | ok v =>
                rw [hkey, hvalue] at h
                obtain ⟨rows, hrows, rfl⟩ := ih.mp h
                exact ⟨(name, v) :: rows, .cons ⟨hkey, hvalue⟩ hrows, rfl⟩
      · rintro ⟨rows, hrows, rfl⟩
        cases hrows with
        | cons hfirst hothers =>
            rw [hfirst.1, hfirst.2]
            exact ih.mpr ⟨_, hothers, rfl⟩

theorem toValue_sequence_eq_ok_iff {items : List Tree} {v : Value} :
    (Tree.sequence items).toValue = .ok v ↔
      ∃ elements, v = .array elements ∧ List.Forall₂ (fun t v => t.toValue = .ok v) items elements := by
  rw [toValue, map_eq_ok_iff]
  constructor
  · rintro ⟨elements, helements, rfl⟩
    exact ⟨elements, rfl, toElements_eq_ok_iff.mp helements⟩
  · rintro ⟨elements, rfl, helements⟩
    exact ⟨elements, toElements_eq_ok_iff.mpr helements, rfl⟩

theorem toValue_mapping_eq_ok_iff {entries : List (Tree × Tree)} {v : Value} :
    (Tree.mapping entries).toValue = .ok v ↔
      ∃ rows, v = .object (Members.setAll [] rows) ∧ List.Forall₂ Becomes entries rows := by
  rw [toValue, map_eq_ok_iff]
  constructor
  · rintro ⟨members, hmembers, rfl⟩
    obtain ⟨rows, hrows, rfl⟩ := toMembers_eq_ok_iff.mp hmembers
    exact ⟨rows, rfl, hrows⟩
  · rintro ⟨rows, rfl, hrows⟩
    exact ⟨_, toMembers_eq_ok_iff.mpr ⟨rows, hrows, rfl⟩, rfl⟩

end Yaml.Tree

end JsonSchema
