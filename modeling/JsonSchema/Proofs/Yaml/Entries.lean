import Mathlib
import JsonSchema.Proofs.Json.Pointer
import JsonSchema.Proofs.Yaml.Parts
import JsonSchema.Yaml.Composition

/-!
# `JsonSchema.Proofs.Yaml.Entries` — which entries of a YAML mapping become members

The keys of a mapping are different as YAML values. As names of members they need not be: the integer `7`
and the text `"7"` become the same name, as do equal keys under different tags. The conversion does not
fail on them; the later entry takes the place of the earlier one, of which nothing is left.

This is the only way in which an entry is lost. Where no two keys of a mapping become the same name, at any
depth, every mapping has become an object with as many members, at the same place, and each of its entries
is found there under the name of its key (`entries_kept_iff`).

## Contents
- **Places.** `Tree.Leads`: the path of a part, by names and positions.
- **Losses.** `Tree.Distinct`, `Tree.Kept`, and `follow_of_leads`.
- **Entries.** `entries_kept_iff`, and `entry_lost` for keys of one name.
-/

namespace JsonSchema.Yaml.Tree

variable {tree part : Tree} {value : Value} {path : Path}

/-! ## Places -/

/-- A path leads to a part of a tree: an item stands under its position, and the value of an entry under
the name that its key becomes. -/
inductive Leads : Tree → Path → Tree → Prop where
  | here (t : Tree) : Leads t [] t
  | tagged {tag : String} {t part : Tree} {path : Path} (rest : Leads t path part) :
      Leads (.tagged tag t) path part
  | item {items : List Tree} {i : Nat} {t part : Tree} {path : Path} (mem : items[i]? = some t)
      (rest : Leads t path part) : Leads (.sequence items) (.index i :: path) part
  | entry {entries : List (Tree × Tree)} {e : Tree × Tree} {name : String} {part : Tree} {path : Path}
      (mem : e ∈ entries) (named : e.1.memberName = .ok name) (rest : Leads e.2 path part) :
      Leads (.mapping entries) (.key name :: path) part

/-- What stands at a position in one list has its counterpart there in the other. -/
theorem exists_getElem? {α β : Type} {R : α → β → Prop} {as : List α} {bs : List β}
    (h : List.Forall₂ R as bs) {i : Nat} {a : α} (ha : as[i]? = some a) : ∃ b, bs[i]? = some b ∧ R a b := by
  induction h generalizing i with
  | nil => cases ha
  | @cons a' b' as bs hfirst _ ih =>
      cases i with
      | zero =>
          obtain rfl : a' = a := Option.some.inj ha
          exact ⟨b', rfl, hfirst⟩
      | succ i => exact ih ha

theorem exists_of_mem {α β : Type} {R : α → β → Prop} {as : List α} {bs : List β}
    (h : List.Forall₂ R as bs) {a : α} (ha : a ∈ as) : ∃ b ∈ bs, R a b := by
  obtain ⟨i, hi⟩ := List.mem_iff_getElem?.mp ha
  obtain ⟨b, hb, hab⟩ := exists_getElem? h hi
  exact ⟨b, List.mem_of_getElem? hb, hab⟩

/-- **Every part of a tree that is converted has a path**, and is converted too. -/
theorem exists_leads (h : tree.toValue = .ok value) (hpart : tree.Holds part) :
    ∃ path v, tree.Leads path part ∧ part.toValue = .ok v := by
  induction hpart generalizing value with
  | here t => exact ⟨[], value, .here t, h⟩
  | tagged _ ih =>
      obtain ⟨path, v, hpath, hv⟩ := ih h
      exact ⟨path, v, .tagged hpath, hv⟩
  | item mem _ ih =>
      obtain ⟨elements, -, heach⟩ := toValue_sequence_eq_ok_iff.mp h
      obtain ⟨i, hi⟩ := List.mem_iff_getElem?.mp mem
      obtain ⟨w, -, hw⟩ := exists_getElem? heach hi
      obtain ⟨path, v, hpath, hv⟩ := ih hw
      exact ⟨.index i :: path, v, .item hi hpath, hv⟩
  | entry mem _ ih =>
      obtain ⟨rows, -, heach⟩ := toValue_mapping_eq_ok_iff.mp h
      obtain ⟨r, -, hname, hw⟩ := exists_of_mem heach mem
      obtain ⟨path, v, hpath, hv⟩ := ih hw
      exact ⟨.key r.1 :: path, v, .entry mem hname hpath, hv⟩

/-! ## Losses -/

/-- No two keys of a mapping become the same name, in the tree and in all its parts. -/
def Distinct (tree : Tree) : Prop :=
  ∀ entries, tree.Holds (.mapping entries) → (entries.map fun e => e.1.memberName).Nodup

@[simp] theorem distinct_tagged {tag : String} : (Tree.tagged tag tree).Distinct ↔ tree.Distinct := by
  simp [Distinct]

@[simp] theorem distinct_sequence {items : List Tree} :
    (Tree.sequence items).Distinct ↔ ∀ t ∈ items, t.Distinct := by
  simp only [Distinct, holds_sequence, reduceCtorEq, false_or]
  constructor
  · exact fun h t ht entries hholds => h entries ⟨t, ht, hholds⟩
  · rintro h entries ⟨t, ht, hholds⟩
    exact h t ht entries hholds

@[simp] theorem distinct_mapping {entries : List (Tree × Tree)} :
    (Tree.mapping entries).Distinct ↔
      (entries.map fun e => e.1.memberName).Nodup ∧ ∀ e ∈ entries, e.2.Distinct := by
  simp only [Distinct, holds_mapping, Tree.mapping.injEq]
  constructor
  · exact fun h => ⟨h entries (Or.inl rfl), fun e he inner hholds => h inner (Or.inr ⟨e, he, hholds⟩)⟩
  · rintro ⟨hnames, heach⟩ inner (rfl | ⟨e, he, hholds⟩)
    · exact hnames
    · exact heach e he inner hholds

/-- An object has all entries of a mapping: as many members, and for each entry a member with the name of
its key and what its value becomes. -/
def Kept (entries : List (Tree × Tree)) (v : Value) : Prop :=
  ∃ members : Members, v = .object members ∧ members.length = entries.length ∧
    ∀ e ∈ entries, ∃ name w, e.1.memberName = .ok name ∧ e.2.toValue = .ok w ∧
      members.get? name = some w

/-- The names of rows are different if the names of the keys are. -/
theorem nodup_rows_iff {entries : List (Tree × Tree)} {rows : List (String × Value)}
    (h : List.Forall₂ Becomes entries rows) :
    (rows.map Prod.fst).Nodup ↔ (entries.map fun e => e.1.memberName).Nodup := by
  have hnames : (entries.map fun e => e.1.memberName) = (rows.map Prod.fst).map .ok := by
    induction h with
    | nil => rfl
    | cons hfirst _ ih => rw [List.map_cons, ih, hfirst.1, List.map_cons, List.map_cons]
  rw [hnames, List.nodup_map_iff fun _ _ => Except.ok.inj]

/-- **Where names are different the rows are the members.** -/
theorem toValue_mapping_of_nodup {entries : List (Tree × Tree)} {v : Value}
    (h : (Tree.mapping entries).toValue = .ok v)
    (hnames : (entries.map fun e => e.1.memberName).Nodup) :
    ∃ rows : Members, v = .object rows ∧ (rows.map Prod.fst).Nodup ∧ List.Forall₂ Becomes entries rows := by
  obtain ⟨rows, rfl, heach⟩ := toValue_mapping_eq_ok_iff.mp h
  have hrows := (nodup_rows_iff heach).mpr hnames
  have hset : Members.setAll [] rows = rows := Members.setAll_of_nodup hrows
  exact ⟨rows, congrArg Value.object hset, hrows, heach⟩

/-- **A mapping keeps all its entries exactly if its keys become different names.** -/
theorem kept_iff {entries : List (Tree × Tree)} {v : Value} (h : (Tree.mapping entries).toValue = .ok v) :
    Kept entries v ↔ (entries.map fun e => e.1.memberName).Nodup := by
  constructor
  · intro hkept
    obtain ⟨rows, rfl, heach⟩ := toValue_mapping_eq_ok_iff.mp h
    obtain ⟨members, heq, hlength, -⟩ := hkept
    cases heq
    rw [← nodup_rows_iff heach]
    exact Members.nodup_of_length_setAll (hlength.trans heach.length_eq)
  · intro hnames
    obtain ⟨rows, rfl, hrows, heach⟩ := toValue_mapping_of_nodup h hnames
    refine ⟨rows, rfl, heach.length_eq.symm, fun e he => ?_⟩
    obtain ⟨r, hr, hname, hv⟩ := exists_of_mem heach he
    exact ⟨r.1, r.2, hname, hv, Members.get?_of_mem hrows hr⟩

/-- **A part and what it becomes stand at the same place**, if no entry is lost. -/
theorem follow_of_leads (h : tree.toValue = .ok value) (hdistinct : tree.Distinct)
    (hpart : tree.Leads path part) : ∃ v, value.follow path = some v ∧ part.toValue = .ok v := by
  induction hpart generalizing value with
  | here t => exact ⟨value, rfl, h⟩
  | tagged _ ih => exact ih h (distinct_tagged.mp hdistinct)
  | item mem _ ih =>
      obtain ⟨elements, rfl, heach⟩ := toValue_sequence_eq_ok_iff.mp h
      obtain ⟨v, hv, ht⟩ := exists_getElem? heach mem
      obtain ⟨w, hw, hpart⟩ := ih ht (distinct_sequence.mp hdistinct _ (List.mem_of_getElem? mem))
      refine ⟨w, ?_, hpart⟩
      rw [Value.follow, Value.child?, hv]
      exact hw
  | entry mem named _ ih =>
      obtain ⟨hnames, hvalues⟩ := distinct_mapping.mp hdistinct
      obtain ⟨rows, rfl, hrows, heach⟩ := toValue_mapping_of_nodup h hnames
      obtain ⟨r, hr, hname, hv⟩ := exists_of_mem heach mem
      obtain rfl : r.1 = _ := Except.ok.inj (hname.symm.trans named)
      obtain ⟨w, hw, hpart⟩ := ih hv (hvalues _ mem)
      refine ⟨w, ?_, hpart⟩
      rw [Value.follow, Value.child?, Members.get?_of_mem hrows hr]
      exact hw

/-! ## Entries -/

/-- **Entries are kept exactly where keys become different names.** Of a tree that is converted, every
mapping becomes an object that has all its entries exactly if no two of its keys become the same name. If
that is so everywhere in the tree, each part stands in the tree under a path, and what it becomes stands in
the result at the same place. -/
theorem entries_kept_iff (h : tree.toValue = .ok value) :
    (∀ entries, tree.Holds (.mapping entries) → ∃ v, (Tree.mapping entries).toValue = .ok v ∧
        (Kept entries v ↔ (entries.map fun e => e.1.memberName).Nodup)) ∧
      (∀ part, tree.Holds part → ∃ path, tree.Leads path part) ∧
      (tree.Distinct → ∀ path part, tree.Leads path part →
        ∃ v, value.follow path = some v ∧ part.toValue = .ok v) := by
  refine ⟨fun entries hholds => ?_, fun part hholds => ?_, fun hdistinct path part hpath => ?_⟩
  · obtain ⟨path, v, -, hv⟩ := exists_leads h hholds
    exact ⟨v, hv, kept_iff hv⟩
  · obtain ⟨path, v, hpath, -⟩ := exists_leads h hholds
    exact ⟨path, hpath⟩
  · exact follow_of_leads h hdistinct hpath

/-- Entries with keys that differ as texts, though not by much. -/
def flags : List (Tree × Tree) := [(.bool true, .null), (.string "True", .null)]

/-- Flags in a list, under a tag and under a key that is a number. -/
def flagged : Tree :=
  .mapping [(.number (.finite (.integer 7 (by decide) (by decide))), .tagged "!list" (.sequence [.mapping flags])),
    (.string "7.0", .string "b")]

theorem entries_kept_iff_flagged :
    ∃ value, flagged.toValue = .ok value ∧ flagged.Distinct ∧
      flagged.Leads [.key "7", .index 0] (.mapping flags) ∧
      ∃ v, value.follow [.key "7", .index 0] = some v ∧ (Tree.mapping flags).toValue = .ok v ∧
        Kept flags v := by
  have hvalue : flagged.toValue = .ok (.object
      [("7", .array [.object [("true", .null), ("True", .null)]]), ("7.0", .string "b")]) := rfl
  obtain ⟨heach, -, hplaces⟩ := entries_kept_iff hvalue
  have hpath : flagged.Leads [.key "7", .index 0] (.mapping flags) :=
    .entry List.mem_cons_self rfl (.tagged (.item rfl (.here _)))
  have hholds : flagged.Holds (.mapping flags) :=
    .entry List.mem_cons_self (.tagged (.item List.mem_cons_self (.here _)))
  have hflags : (flags.map fun e => e.1.memberName).Nodup := by simp [flags, memberName]
  have hdistinct : flagged.Distinct := by
    have hseven : (Number.integer 7 (by decide) (by decide)).write .memberName = "7" := by decide +kernel
    simp [flagged, flags, memberName, TreeNumber.write, hseven, Distinct]
  obtain ⟨v, hfollow, hv⟩ := hplaces hdistinct _ _ hpath
  obtain ⟨w, hw, hkept⟩ := heach flags hholds
  obtain rfl : v = w := Except.ok.inj (hv.symm.trans hw)
  exact ⟨_, hvalue, hdistinct, hpath, v, hfollow, hv, hkept.mpr hflags⟩

/-- An integer and a text as keys, which are written alike. -/
def alike : List (Tree × Tree) :=
  [(.number (.finite (.integer 7 (by decide) (by decide))), .string "a"), (.string "7", .string "b")]

/-- **An entry can be lost.** The keys are different, and the text is read as a mapping with both, but of
the two entries only one becomes a member. -/
theorem entry_lost :
    Tree.read? "7: a\n\"7\": b\n" = some (.mapping alike) ∧
      alike.Pairwise (fun a b => a.1.same b.1 = false) ∧
      (Tree.mapping alike).toValue = .ok (.object [("7", .string "b")]) ∧
      ¬Kept alike (.object [("7", .string "b")]) := by
  refine ⟨by cbv, by simp [alike, same], rfl, ?_⟩
  rintro ⟨members, heq, hlength, -⟩
  cases heq
  cases hlength

end JsonSchema.Yaml.Tree
