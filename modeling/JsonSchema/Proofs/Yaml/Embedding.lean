import JsonSchema.Proofs.Yaml.Parts

/-!
# `JsonSchema.Proofs.Yaml.Embedding` — JSON values inside YAML, and what else is there

Every JSON value is a YAML tree, with texts as keys. Tags can be put around any part of that tree, and
around its keys. The conversion takes all of this back (`toValue_of_untagged_eq`), numbers included: an
integer is tried with a sign first and then without one, so that both ends of the 64 bits are reached, and
only what has neither view is taken as a double.

Of the other trees most are converted too. Only two things have no form in JSON, a number that is not
finite and a key that is a collection, and the conversion fails exactly on trees that hold one of them
(`fails_iff`). Inside a key nothing else matters, since a key is written and not converted.

## Contents
- **Tags.** `Tree.untagged`, and `toValue_untagged`: tags make no difference.
- **Failures.** `Tree.Formless`, the sources of failure, and `fails_iff`.
- **Embedding.** `Tree.ofValue`, and `toValue_of_untagged_eq`.
- **Both together.** `conversion_exact`.
-/

namespace JsonSchema.Yaml.Tree

variable {tree : Tree}

/-! ## Tags -/

mutual

/-- The tree without tags, those of keys and inside of keys included. -/
def untagged : Tree → Tree
  | .tagged _ tree => untagged tree
  | .sequence items => .sequence (untaggedItems items)
  | .mapping entries => .mapping (untaggedEntries entries)
  | .null => .null
  | .bool flag => .bool flag
  | .number n => .number n
  | .string text => .string text

/-- Items without tags. -/
def untaggedItems : List Tree → List Tree
  | [] => []
  | item :: rest => untagged item :: untaggedItems rest

/-- Entries without tags. -/
def untaggedEntries : List (Tree × Tree) → List (Tree × Tree)
  | [] => []
  | (key, value) :: rest => (untagged key, untagged value) :: untaggedEntries rest

end

theorem memberName_untagged (key : Tree) : key.untagged.memberName = key.memberName := by
  induction key using nested_induction with
  | tagged tag t ih => exact ih
  | null | bool _ | number _ | string _ | sequence _ _ | mapping _ _ => rfl

theorem toElements_untagged {items : List Tree} (h : ∀ t ∈ items, t.untagged.toValue = t.toValue) :
    toElements (untaggedItems items) = toElements items := by
  induction items with
  | nil => rfl
  | cons t rest ih =>
      obtain ⟨ht, hrest⟩ := List.forall_mem_cons.mp h
      rw [untaggedItems, toElements, toElements, ht, ih hrest]

theorem toMembers_untagged {entries : List (Tree × Tree)}
    (h : ∀ e ∈ entries, e.2.untagged.toValue = e.2.toValue) (members : Members) :
    toMembers members (untaggedEntries entries) = toMembers members entries := by
  induction entries generalizing members with
  | nil => rfl
  | cons e rest ih =>
      obtain ⟨key, value⟩ := e
      obtain ⟨hvalue, hrest⟩ := List.forall_mem_cons.mp h
      rw [untaggedEntries, toMembers, toMembers, memberName_untagged, hvalue]
      simp only [ih hrest]

/-- **Tags make no difference.** -/
theorem toValue_untagged (tree : Tree) : tree.untagged.toValue = tree.toValue := by
  induction tree using nested_induction with
  | tagged tag t ih => exact ih
  | sequence items ih => rw [untagged, toValue, toValue, toElements_untagged ih]
  | mapping entries ih =>
      rw [untagged, toValue, toValue, toMembers_untagged fun e he => (ih e he).2]
  | null | bool _ | number _ | string _ => rfl

/-! ## Failures -/

/-- The tree is a sequence or a mapping. -/
def IsCollection : Tree → Prop
  | .sequence _ | .mapping _ => True
  | .null | .bool _ | .number _ | .string _ | .tagged _ _ => False

/-- What has no form in JSON: a number that is not finite, and a mapping with a collection as a key. -/
def Formless : Tree → Prop
  | .number n => ∀ m, n ≠ .finite m
  | .mapping entries => ∃ e ∈ entries, e.1.untagged.IsCollection
  | .null | .bool _ | .string _ | .sequence _ | .tagged _ _ => False

/-- The conversion of a tree fails. -/
def Fails (tree : Tree) : Prop := ∃ fault, tree.toValue = .error fault

theorem memberName_error_iff {key : Tree} :
    (∃ fault, key.memberName = .error fault) ↔ key.untagged.IsCollection := by
  induction key using nested_induction with
  | tagged tag t ih => exact ih
  | sequence items _ => exact ⟨fun _ => trivial, fun _ => ⟨_, rfl⟩⟩
  | mapping entries _ => exact ⟨fun _ => trivial, fun _ => ⟨_, rfl⟩⟩
  | bool flag => cases flag <;> simp [memberName, untagged, IsCollection]
  | null | number _ | string _ => simp [memberName, untagged, IsCollection]

theorem map_error_iff {ε α β : Type} {f : α → β} {x : Except ε α} :
    (∃ fault, x.map f = .error fault) ↔ ∃ fault, x = .error fault := by
  cases x <;> simp [Except.map]

theorem toElements_error_iff {items : List Tree} :
    (∃ fault, toElements items = .error fault) ↔ ∃ t ∈ items, t.Fails := by
  induction items with
  | nil => simp [toElements]
  | cons t rest ih =>
      rw [List.exists_mem_cons_iff, ← ih, Fails, toElements]
      cases ht : t.toValue with
      | error fault => simp
      | ok v => simp [map_error_iff]

theorem toMembers_error_iff {members : Members} {entries : List (Tree × Tree)} :
    (∃ fault, toMembers members entries = .error fault) ↔
      ∃ e ∈ entries, e.1.untagged.IsCollection ∨ e.2.Fails := by
  induction entries generalizing members with
  | nil => simp [toMembers]
  | cons e rest ih =>
      obtain ⟨key, value⟩ := e
      rw [List.exists_mem_cons_iff, ← memberName_error_iff, Fails, toMembers]
      cases hkey : key.memberName with
      | error fault => simp
      | ok name =>
          cases hvalue : value.toValue with
          | error fault => simp
          | ok v => simp [ih]

theorem number_fails_iff {n : TreeNumber} : (Tree.number n).Fails ↔ ∀ m, n ≠ .finite m := by
  cases n with
  | finite m => simp [Fails, toValue, TreeNumber.toNumber?_finite]
  | infinity _ | notANumber => simp [Fails, toValue, TreeNumber.toNumber?, TreeNumber.signed?,
      TreeNumber.unsigned?, TreeNumber.double?]

/-- **The conversion fails exactly on what has no form**, wherever in the tree it is held. -/
theorem fails_iff (tree : Tree) : tree.Fails ↔ ∃ part, tree.Holds part ∧ part.Formless := by
  induction tree using nested_induction with
  | null | bool _ | string _ => simp [Fails, toValue, Formless]
  | number n => simp [number_fails_iff, Formless]
  | sequence items ih =>
      rw [Fails, toValue, map_error_iff, toElements_error_iff, exists_holds_sequence, Formless, false_or]
      exact exists_congr fun t => and_congr_right (ih t)
  | mapping entries ih =>
      rw [Fails, toValue, map_error_iff, toMembers_error_iff, exists_holds_mapping, Formless]
      simp only [and_or_left, exists_or]
      exact or_congr_right (exists_congr fun e => and_congr_right fun he => (ih e he).2)
  | tagged tag t ih =>
      rw [Fails, toValue, ← Fails, ih]
      simp [Formless]

/-! ## Embedding -/

mutual

/-- A JSON value as a tree, with texts as keys. -/
def ofValue : Value → Tree
  | .null => .null
  | .bool flag => .bool flag
  | .number n => .number (.finite n)
  | .string text => .string text
  | .array elements => .sequence (ofElements elements)
  | .object members => .mapping (ofMembers members)

/-- Elements as items. -/
def ofElements : List Value → List Tree
  | [] => []
  | v :: rest => ofValue v :: ofElements rest

/-- Members as entries. -/
def ofMembers : List (String × Value) → List (Tree × Tree)
  | [] => []
  | (name, v) :: rest => (.string name, ofValue v) :: ofMembers rest

end

theorem ofElements_eq_map (elements : List Value) : ofElements elements = elements.map ofValue := by
  induction elements with
  | nil => rfl
  | cons v rest ih => rw [ofElements, ih, List.map_cons]

theorem ofMembers_eq_map (members : Members) :
    ofMembers members = members.map fun m => (.string m.1, ofValue m.2) := by
  induction members with
  | nil => rfl
  | cons m rest ih => rw [ofMembers, ih, List.map_cons]

/-- **A JSON value comes back**, with its members in their order. -/
theorem toValue_ofValue {v : Value} (h : v.UniqueNames) : (ofValue v).toValue = .ok v := by
  induction h with
  | null | bool _ | string _ => rfl
  | number n => rw [ofValue, toValue, TreeNumber.toNumber?_finite]
  | array each ih =>
      rw [ofValue, ofElements_eq_map]
      refine toValue_sequence_eq_ok_iff.mpr ⟨_, rfl, ?_⟩
      exact List.forall₂_map_left_iff.mpr (List.forall₂_same.mpr ih)
  | @object members names each ih =>
      -- no name comes twice, so setting the members in turn takes none of them away
      have hset : Members.setAll [] members = members := Members.setAll_of_nodup names
      rw [ofValue, ofMembers_eq_map]
      refine toValue_mapping_eq_ok_iff.mpr ⟨members, congrArg Value.object hset.symm, ?_⟩
      exact List.forall₂_map_left_iff.mpr (List.forall₂_same.mpr fun m hm => ⟨rfl, ih m.1 m.2 hm⟩)

/-- **Tags around a JSON value and around its keys make no difference.** -/
theorem toValue_of_untagged_eq {v : Value} (h : v.UniqueNames) (htree : tree.untagged = ofValue v) :
    tree.toValue = .ok v := by
  rw [← toValue_untagged, htree, toValue_ofValue h]

/-! ## Both together -/

/-- **The conversion is exact.** It fails exactly on trees that hold, outside of keys, a number that is not
finite or a mapping with a collection as a key; and from a JSON value in a tree, with tags around any of
its values and keys, it makes that value. Members of values have different names, as is the case for every
value that is read. -/
theorem conversion_exact :
    (∀ tree : Tree, (∃ fault, tree.toValue = .error fault) ↔
        (∃ n, tree.Holds (.number n) ∧ ∀ m, n ≠ .finite m) ∨
          ∃ entries key value, tree.Holds (.mapping entries) ∧ (key, value) ∈ entries ∧
            key.untagged.IsCollection) ∧
      ∀ (v : Value) (tree : Tree), v.UniqueNames → tree.untagged = ofValue v → tree.toValue = .ok v := by
  refine ⟨fun tree => (fails_iff tree).trans ?_, fun v tree h htree => toValue_of_untagged_eq h htree⟩
  constructor
  · rintro ⟨part, hholds, hformless⟩
    cases part with
    | number n => exact Or.inl ⟨n, hholds, hformless⟩
    | mapping entries =>
        obtain ⟨⟨key, value⟩, hentry, hkey⟩ := hformless
        exact Or.inr ⟨entries, key, value, hholds, hentry, hkey⟩
    | null | bool _ | string _ | sequence _ | tagged _ _ => exact hformless.elim
  · rintro (⟨n, hholds, hn⟩ | ⟨entries, key, value, hholds, hentry, hkey⟩)
    · exact ⟨.number n, hholds, hn⟩
    · exact ⟨.mapping entries, hholds, (key, value), hentry, hkey⟩

/-- Both ends of the 64 bits, and a zero with a sign. -/
def ends : Value :=
  .object [("max", .number (.integer (2 ^ 64 - 1) (by decide) (by decide))),
    ("rest", .array [.number (.integer (-2 ^ 63) (by decide) (by decide)), .number (.double (.zero true))])]

/-- The same as a tree, with tags around it, around a key and around numbers. -/
def taggedEnds : Tree :=
  .tagged "!ends" (.mapping
    [(.tagged "!key" (.string "max"),
        .tagged "!a" (.tagged "!b" (.number (.finite (.integer (2 ^ 64 - 1) (by decide) (by decide)))))),
      (.string "rest", .sequence [.number (.finite (.integer (-2 ^ 63) (by decide) (by decide))),
        .tagged "!zero" (.number (.finite (.double (.zero true))))])])

theorem conversion_exact_ends :
    ends.UniqueNames ∧ taggedEnds.untagged = ofValue ends ∧ taggedEnds.toValue = .ok ends ∧
      ∃ fault, (Tree.sequence [taggedEnds, .tagged "!far" (.number (.infinity true))]).toValue = .error fault := by
  obtain ⟨hfails, hsame⟩ := conversion_exact
  have hunique : ends.UniqueNames := by
    refine .object (by simp) fun name v hmem => ?_
    obtain ⟨-, rfl⟩ | ⟨-, rfl⟩ := by simpa using hmem
    · exact .number _
    · exact .array (by simp)
  have hfar : (Tree.sequence [taggedEnds, .tagged "!far" (.number (.infinity true))]).Holds
      (.number (.infinity true)) := by simp
  have hinfinite : ∀ m, TreeNumber.infinity true ≠ .finite m := by simp
  exact ⟨hunique, rfl, hsame ends taggedEnds hunique rfl, (hfails _).mpr (Or.inl ⟨_, hfar, hinfinite⟩)⟩

end JsonSchema.Yaml.Tree
