import Mathlib.Data.List.Perm.Basic
import JsonSchema.Proofs.Json.UniqueNames

/-!
# `JsonSchema.Proofs.Json.Reordered` — values that differ in the order of members alone

An object is written with its members in some order, and a document may hold objects at any depth. Two
documents with the same members everywhere, in whatever order, are told apart by nothing that looks
members up by name. Equality by value is one such thing.

## Contents
- **Reordered values.** `Value.Reordered`, and `Reordered.uniqueNames`.
- **Members by name.** `get?_of_named_rows`, `get?_of_rows`: the same names, and under each name the values
  of one row.
- **Equality by value.** `equiv_of_reordered`.
-/

namespace JsonSchema

/-! ## Reordered values -/

/-- **Two values differ in the order of members alone**, in objects at any depth. The elements of two
arrays pair up in order. The members of two objects pair up under their names, in whatever order either
object holds them; a row is a name with the value on either side. -/
inductive Value.Reordered : Value → Value → Prop where
  | same (v : Value) : Reordered v v
  | array (pairs : List (Value × Value)) (each : ∀ p ∈ pairs, Reordered p.1 p.2) :
      Reordered (.array (pairs.map Prod.fst)) (.array (pairs.map Prod.snd))
  | object {members members' : Members} (rows : List (String × Value × Value))
      (left : members.Perm (rows.map fun r => (r.1, r.2.1)))
      (right : members'.Perm (rows.map fun r => (r.1, r.2.2)))
      (each : ∀ r ∈ rows, Reordered r.2.1 r.2.2) : Reordered (.object members) (.object members')

section Rows

variable {members members' : Members} {rows : List (String × Value × Value)}
  (left : members.Perm (rows.map fun r => (r.1, r.2.1)))
  (right : members'.Perm (rows.map fun r => (r.1, r.2.2)))
include left right

/-- The members have the same names. -/
theorem names_perm_of_rows : (members.map Prod.fst).Perm (members'.map Prod.fst) := by
  have hleft := left.map Prod.fst
  have hright := right.map Prod.fst
  rw [List.map_map] at hleft hright
  exact hleft.trans hright.symm

omit left right in
/-- Both values of a row stand among the members of their side. -/
theorem mem_of_row {side : String × Value × Value → String × Value} (h : members.Perm (rows.map side))
    {r : String × Value × Value} (hr : r ∈ rows) : side r ∈ members :=
  h.mem_iff.mpr (List.mem_map_of_mem hr)

omit right in
theorem uniqueNames_of_row (hv : (Value.object members).UniqueNames) {r : String × Value × Value}
    (hr : r ∈ rows) : r.2.1.UniqueNames :=
  (Value.uniqueNames_object.mp hv).2 r.1 r.2.1 (mem_of_row left hr)

end Rows

/-- Names are unique after members have been reordered if they were before, so of two such values it is
enough to ask it of one. -/
theorem Value.Reordered.uniqueNames {v w : Value} (h : v.Reordered w) (hv : v.UniqueNames) :
    w.UniqueNames := by
  induction h with
  | same v => exact hv
  | array pairs each ih =>
      rw [Value.uniqueNames_array] at hv ⊢
      intro e he
      obtain ⟨p, hp, rfl⟩ := List.mem_map.mp he
      exact ih p hp (hv p.1 (List.mem_map_of_mem hp))
  | @object members members' rows left right each ih =>
      have hnames := (Value.uniqueNames_object.mp hv).1
      rw [Value.uniqueNames_object]
      refine ⟨(names_perm_of_rows left right).nodup_iff.mp hnames, fun name w hw => ?_⟩
      obtain ⟨r, hr, heq⟩ := List.mem_map.mp (right.mem_iff.mp hw)
      obtain ⟨rfl, rfl⟩ := Prod.mk.inj heq
      exact ih r hr (uniqueNames_of_row left hv hr)

/-! ## Members by name -/

section Rows

variable {members members' : Members} {rows : List (String × Value × Value)}
  (left : members.Perm (rows.map fun r => (r.1, r.2.1)))
  (right : members'.Perm (rows.map fun r => (r.1, r.2.2)))
  (hnames : (members.map Prod.fst).Nodup)
include left right hnames

/-- Under one name both objects hold the values of one row, or neither holds any. What is known of a row
may depend on its name. -/
theorem get?_of_named_rows {R : String → Value → Value → Prop} (each : ∀ r ∈ rows, R r.1 r.2.1 r.2.2)
    (name : String) : Option.Rel (R name) (members.get? name) (members'.get? name) := by
  by_cases hrow : ∃ r ∈ rows, r.1 = name
  · obtain ⟨r, hr, rfl⟩ := hrow
    have hnames' := (names_perm_of_rows left right).nodup_iff.mp hnames
    rw [Members.get?_of_mem hnames (mem_of_row left hr),
      Members.get?_of_mem hnames' (mem_of_row right hr)]
    exact .some (each r hr)
  · have hnone : members.get? name = none := by
      refine Members.get?_eq_none_iff.mpr fun v hv => hrow ?_
      obtain ⟨r, hr, heq⟩ := List.mem_map.mp (left.mem_iff.mp hv)
      exact ⟨r, hr, (Prod.mk.inj heq).1⟩
    have hnone' : members'.get? name = none := by
      refine Members.get?_eq_none_iff.mpr fun v hv => hrow ?_
      obtain ⟨r, hr, heq⟩ := List.mem_map.mp (right.mem_iff.mp hv)
      exact ⟨r, hr, (Prod.mk.inj heq).1⟩
    rw [hnone, hnone']
    exact .none

theorem get?_of_rows {R : Value → Value → Prop} (each : ∀ r ∈ rows, R r.2.1 r.2.2) (name : String) :
    Option.Rel R (members.get? name) (members'.get? name) :=
  get?_of_named_rows (R := fun _ => R) left right hnames each name

/-- The same names are there. -/
theorem has_of_rows (name : String) : members.has name = members'.has name := by
  have hrel : Option.Rel (fun _ _ => True) (members.get? name) (members'.get? name) :=
    get?_of_rows left right hnames (fun _ _ => trivial) name
  rw [Members.has, Members.has]
  generalize members.get? name = o, members'.get? name = o' at hrel
  cases hrel <;> rfl

end Rows

/-! ## Equality by value -/

namespace Value

/-- Two values are equal to the same values. -/
def EquivAlike (v w : Value) : Prop := ∀ a : Value, a.equiv v = a.equiv w

theorem equivElements_congr {pairs : List (Value × Value)} (h : ∀ p ∈ pairs, EquivAlike p.1 p.2)
    (as : List Value) :
    equivElements as (pairs.map Prod.fst) = equivElements as (pairs.map Prod.snd) := by
  induction pairs generalizing as with
  | nil => rfl
  | cons p rest ih =>
      obtain ⟨hp, hrest⟩ := List.forall_mem_cons.mp h
      cases as with
      | nil => rfl
      | cons a as =>
          rw [List.map_cons, List.map_cons, equivElements, equivElements, hp a, ih hrest as]

theorem equivMembers_congr {members members' : Members}
    (h : ∀ name, Option.Rel EquivAlike (members.get? name) (members'.get? name)) (as : Members) :
    equivMembers as members = equivMembers as members' := by
  induction as with
  | nil => rfl
  | cons a rest ih =>
      obtain ⟨name, a⟩ := a
      rw [equivMembers, equivMembers, ih]
      congr 1
      have hrel := h name
      generalize members.get? name = o, members'.get? name = o' at hrel
      cases hrel with
      | some halike => exact halike a
      | none => rfl

/-- **Equality by value looks past the order of members**, on either side of it at any depth. -/
theorem equiv_of_reordered {v w : Value} (h : v.Reordered w) (hv : v.UniqueNames) :
    EquivAlike v w := by
  induction h with
  | same v => exact fun _ => rfl
  | array pairs each ih =>
      have hpairs : ∀ p ∈ pairs, EquivAlike p.1 p.2 := by
        intro p hp
        exact ih p hp (uniqueNames_array.mp hv p.1 (List.mem_map_of_mem hp))
      intro a
      cases a with
      | array as =>
          rw [equiv, equiv]
          exact equivElements_congr hpairs as
      | _ => rfl
  | @object members members' rows left right each ih =>
      have hnames := (uniqueNames_object.mp hv).1
      have hrows : ∀ r ∈ rows, EquivAlike r.2.1 r.2.2 :=
        fun r hr => ih r hr (uniqueNames_of_row left hv hr)
      have hlength : members.length = members'.length := by
        rw [left.length_eq, right.length_eq, List.length_map, List.length_map]
      intro a
      cases a with
      | object as =>
          rw [equiv, equiv, hlength, equivMembers_congr (get?_of_rows left right hnames hrows) as]
      | _ => rfl

end Value

end JsonSchema
