import Mathlib.Data.List.Nodup
import JsonSchema.Json.Reader

/-!
# `JsonSchema.Proofs.Json.UniqueNames` — every member under a name of its own

An object holds its members as a list, so the type of values also admits objects with two members of
one name. No text is read as such an object: a name that comes again replaces the value it had. The
theorems about places in a document assume `Value.UniqueNames`, and `Json.read_uniqueNames` is why
they hold of every document that is read.

## Contents
- **Unique names.** `Value.UniqueNames`, and its meaning for arrays and objects.
- **Members by name.** `Members.get?` against membership, `Members.insert` and the names.
- **Sizes.** What is in a value is smaller than it.
- **Reading.** The reader's states keep the property (`step_uniqueNames`), so do runs.
-/

namespace JsonSchema

/-! ## Unique names -/

/-- Every object inside a value has members of different names. -/
inductive Value.UniqueNames : Value → Prop where
  | null : UniqueNames .null
  | bool (flag : Bool) : UniqueNames (.bool flag)
  | number (n : Number) : UniqueNames (.number n)
  | string (text : String) : UniqueNames (.string text)
  | array {elements : List Value} (each : ∀ e ∈ elements, UniqueNames e) :
      UniqueNames (.array elements)
  | object {members : Members} (names : (members.map Prod.fst).Nodup)
      (each : ∀ name v, (name, v) ∈ members → UniqueNames v) : UniqueNames (.object members)

namespace Value

@[simp] theorem uniqueNames_array {elements : List Value} :
    (Value.array elements).UniqueNames ↔ ∀ e ∈ elements, e.UniqueNames :=
  ⟨fun h => by cases h with | array each => exact each, .array⟩

@[simp] theorem uniqueNames_object {members : Members} :
    (Value.object members).UniqueNames ↔
      (members.map Prod.fst).Nodup ∧ ∀ name v, (name, v) ∈ members → v.UniqueNames :=
  ⟨fun h => by cases h with | object names each => exact ⟨names, each⟩, fun h => .object h.1 h.2⟩

attribute [simp] UniqueNames.null UniqueNames.bool UniqueNames.number UniqueNames.string

end Value

/-! ## Members by name -/

namespace Members

@[simp] theorem get?_nil (name : String) : get? [] name = none := rfl

@[simp] theorem get?_cons (k : String) (v : Value) (rest : Members) (name : String) :
    get? ((k, v) :: rest) name = if name = k then some v else get? rest name := by
  unfold get?
  rw [List.lookup_cons]
  by_cases h : name = k
  · simp [h]
  · rw [if_neg h, beq_eq_false_iff_ne.mpr h]

theorem mem_of_get? {members : Members} {name : String} {v : Value}
    (h : get? members name = some v) : (name, v) ∈ members := by
  induction members with
  | nil => exact absurd h (by simp)
  | cons m rest ih =>
      obtain ⟨k, w⟩ := m
      rw [get?_cons] at h
      by_cases hk : name = k
      · rw [if_pos hk] at h
        rw [hk, Option.some.inj h]
        exact List.mem_cons_self
      · rw [if_neg hk] at h
        exact List.mem_cons_of_mem _ (ih h)

/-- Where no name comes twice, a member is found by its name. -/
theorem get?_of_mem {members : Members} {name : String} {v : Value}
    (hnames : (members.map Prod.fst).Nodup) (h : (name, v) ∈ members) :
    get? members name = some v := by
  induction members with
  | nil => exact absurd h List.not_mem_nil
  | cons m rest ih =>
      obtain ⟨k, w⟩ := m
      obtain ⟨hk, hrest⟩ := List.nodup_cons.mp hnames
      rw [get?_cons]
      rcases List.mem_cons.mp h with heq | hmem
      · obtain ⟨rfl, rfl⟩ := Prod.mk.inj heq
        exact if_pos rfl
      · -- the first name is another one, since this one comes later
        have hne : name ≠ k := by
          rintro rfl
          exact hk (List.mem_map.mpr ⟨(name, v), hmem, rfl⟩)
        rw [if_neg hne]
        exact ih hrest hmem

/-- A name is missing exactly if no member has it. -/
theorem get?_eq_none_iff {members : Members} {name : String} :
    get? members name = none ↔ ∀ v, (name, v) ∉ members := by
  induction members with
  | nil => simp
  | cons m rest ih =>
      obtain ⟨k, w⟩ := m
      rw [get?_cons]
      by_cases hk : name = k
      · rw [if_pos hk]
        refine ⟨fun h => absurd h (by simp), fun h => absurd ?_ (h w)⟩
        rw [hk]
        exact List.mem_cons_self
      · rw [if_neg hk, ih]
        simp [hk]

theorem has_iff {members : Members} {name : String} :
    members.has name = true ↔ ∃ v, (name, v) ∈ members := by
  unfold has
  cases h : get? members name with
  | none => simpa using get?_eq_none_iff.mp h
  | some v => simpa using ⟨v, mem_of_get? h⟩

/-- Setting a member adds its name at most once. -/
theorem map_fst_insert (members : Members) (name : String) (v : Value) :
    (insert members name v).map Prod.fst =
      if name ∈ members.map Prod.fst then members.map Prod.fst
      else members.map Prod.fst ++ [name] := by
  induction members with
  | nil => rfl
  | cons m rest ih =>
      obtain ⟨k, w⟩ := m
      unfold insert
      by_cases hk : k = name
      · simp [hk]
      · rw [if_neg hk, List.map_cons, List.map_cons, ih]
        have hne : name ≠ k := fun h => hk h.symm
        by_cases hmem : name ∈ rest.map Prod.fst
        · rw [if_pos hmem, if_pos (List.mem_cons_of_mem _ hmem)]
        · rw [if_neg hmem, if_neg (by simpa [hne] using hmem), List.cons_append]

/-- No name comes twice by setting a member. -/
theorem nodup_insert {members : Members} (h : (members.map Prod.fst).Nodup) (name : String) (v : Value) :
    ((members.insert name v).map Prod.fst).Nodup := by
  rw [map_fst_insert]
  by_cases hmem : name ∈ members.map Prod.fst
  · rw [if_pos hmem]
    exact h
  · rw [if_neg hmem]
    refine List.nodup_append.mpr ⟨h, List.nodup_singleton _, ?_⟩
    intro a ha b hb hab
    rw [hab, List.mem_singleton.mp hb] at ha
    exact hmem ha

/-- A member with a new name goes to the end. -/
theorem insert_of_new {members : Members} {name : String} (h : name ∉ members.map Prod.fst) (v : Value) :
    members.insert name v = members ++ [(name, v)] := by
  induction members with
  | nil => rfl
  | cons m rest ih =>
      obtain ⟨k, w⟩ := m
      have hk : ¬k = name := fun heq => h (heq ▸ List.mem_cons_self)
      have hrest : name ∉ rest.map Prod.fst := fun hmem => h (List.mem_cons_of_mem _ hmem)
      rw [Members.insert, if_neg hk, ih hrest, List.cons_append]

theorem mem_insert {members : Members} {name k : String} {v w : Value}
    (h : (k, w) ∈ insert members name v) : (k, w) ∈ members ∨ w = v := by
  induction members with
  | nil => exact Or.inr (Prod.mk.inj (List.mem_singleton.mp h)).2
  | cons m rest ih =>
      obtain ⟨k', w'⟩ := m
      unfold insert at h
      by_cases hk : k' = name
      · rw [if_pos hk] at h
        rcases List.mem_cons.mp h with he | hr
        · exact Or.inr (Prod.mk.inj he).2
        · exact Or.inl (List.mem_cons_of_mem _ hr)
      · rw [if_neg hk] at h
        rcases List.mem_cons.mp h with he | hr
        · exact Or.inl (he ▸ List.mem_cons_self)
        · exact (ih hr).imp_left (List.mem_cons_of_mem _)

/-- Setting a member keeps names unique. -/
theorem uniqueNames_insert {members : Members} {name : String} {v : Value}
    (hm : (Value.object members).UniqueNames) (hv : v.UniqueNames) :
    (Value.object (insert members name v)).UniqueNames := by
  rw [Value.uniqueNames_object] at hm ⊢
  obtain ⟨hnames, heach⟩ := hm
  refine ⟨nodup_insert hnames name v, fun k w hw => ?_⟩
  rcases mem_insert hw with h | rfl
  · exact heach k w h
  · exact hv

end Members

/-! ## Sizes -/

/-- The value of a member is smaller than the object, which recursions through objects rest on. -/
theorem sizeOf_lt_of_mem_members {members : Members} {name : String} {v : Value}
    (h : (name, v) ∈ members) : sizeOf v < sizeOf (Value.object members) := by
  have hpair := List.sizeOf_lt_of_mem h
  rw [Prod.mk.sizeOf_spec] at hpair
  rw [Value.object.sizeOf_spec]
  omega

/-- An element is smaller than the array. -/
theorem sizeOf_lt_of_mem_elements {elements : List Value} {v : Value} (h : v ∈ elements) :
    sizeOf v < sizeOf (Value.array elements) := by
  have helem := List.sizeOf_lt_of_mem h
  rw [Value.array.sizeOf_spec]
  omega

/-! ## Reading

A state holds containers that are still open, and what has been read of each. All of that is shown as
frames, so that one condition on frames serves for every state. -/

namespace Json

/-- What a container holds so far has unique names. -/
def Frame.UniqueNames : Frame → Prop
  | .array elements => ∀ e ∈ elements, e.UniqueNames
  | .object members _ => (Value.object members).UniqueNames

namespace State

/-- The open containers of a state. A value outside of them counts as an array of its own, and where
a name is due or half read the empty one stands in for it. -/
def frames : State → List Frame
  | .due stack | .arrayOpen stack | .objectOpen stack => stack
  | .inString stack _ _ | .inNumber stack _ _ => stack
  | .arrayNext stack elements | .arrayRest stack elements => .array elements :: stack
  | .objectNext stack members | .objectRest stack members => .object members "" :: stack
  | .inName stack members _ _ | .dueColon stack members _ => .object members "" :: stack
  | .inWord stack _ v => .array [v] :: stack
  | .finished v => [.array [v]]

/-- All that a state holds has unique names. -/
def UniqueNames (s : State) : Prop := ∀ f ∈ s.frames, f.UniqueNames

variable {stack : List Frame} {s s' : State} {c : Char}

theorem complete_uniqueNames {v : Value} (hs : ∀ f ∈ stack, f.UniqueNames) (hv : v.UniqueNames) :
    (complete stack v).UniqueNames := by
  unfold UniqueNames
  match stack with
  | [] => simpa [complete, frames, Frame.UniqueNames] using hv
  | .array elements :: rest =>
      simp only [complete, frames, List.forall_mem_cons, Frame.UniqueNames] at hs ⊢
      exact ⟨⟨hv, hs.1⟩, hs.2⟩
  | .object members name :: rest =>
      simp only [complete, frames, List.forall_mem_cons, Frame.UniqueNames] at hs ⊢
      exact ⟨Members.uniqueNames_insert hs.1 hv, hs.2⟩

/-- The frames around a value that has just begun are those it begins in, but for a word, whose
value is known from its first letter on. -/
theorem opened_uniqueNames (hs : ∀ f ∈ stack, f.UniqueNames) (h : opened stack c = .ok s') :
    s'.UniqueNames := by
  have hword : ∀ v : Value, v.UniqueNames → ∀ rest, (inWord stack rest v).UniqueNames := by
    intro v hv rest
    exact List.forall_mem_cons.mpr ⟨List.forall_mem_singleton.mpr hv, hs⟩
  unfold opened wrong at h
  split_ifs at h
  · cases h; exact hword _ .null _
  · cases h; exact hword _ (.bool true) _
  · cases h; exact hword _ (.bool false) _
  · cases h; exact hs
  · cases h; exact hs
  · cases h; exact hs
  · cases h; exact hs
  · cases hn : Numeral.start.step c with
    | more n => rw [hn] at h; cases h; exact hs
    | finished => rw [hn] at h; cases h
    | wrong fault => rw [hn] at h; cases h

theorem between_uniqueNames (hs : s.UniqueNames) (h : between s c = .ok s') : s'.UniqueNames := by
  cases s with
  | arrayRest stack elements =>
      simp only [between, wrong] at h
      have hall := List.forall_mem_cons.mp hs
      split_ifs at h
      · cases h; exact hs
      · cases h; exact hs
      · cases h
        refine complete_uniqueNames hall.2 (.array fun e he => hall.1 e (List.mem_reverse.mp he))
  | objectRest stack members =>
      simp only [between, wrong] at h
      have hall := List.forall_mem_cons.mp hs
      split_ifs at h
      · cases h; exact hs
      · cases h; exact hs
      · cases h; exact complete_uniqueNames hall.2 hall.1
  | finished v =>
      simp only [between, wrong] at h
      split_ifs at h
      cases h; exact hs
  | _ => cases h; exact hs

theorem closeNumber_uniqueNames {negative : Bool} {n : Numeral} (hs : ∀ f ∈ stack, f.UniqueNames)
    (h : closeNumber stack negative n = .ok s') : s'.UniqueNames := by
  unfold closeNumber at h
  cases hn : n.number? negative with
  | none => rw [hn] at h; cases h
  | some number => rw [hn] at h; cases h; exact complete_uniqueNames hs (.number number)

/-- **One character keeps names unique.** Names come together in `complete` alone, where a member is
set by `Members.insert`. -/
theorem step_uniqueNames (hs : s.UniqueNames) (h : s.step c = .ok s') : s'.UniqueNames := by
  cases s with
  | due stack =>
      simp only [step] at h
      split_ifs at h
      · cases h; exact hs
      · exact opened_uniqueNames hs h
  | arrayOpen stack =>
      simp only [step] at h
      split_ifs at h
      · cases h; exact hs
      · cases h; exact complete_uniqueNames hs (.array (by simp))
      · exact opened_uniqueNames (List.forall_mem_cons.mpr ⟨by simp [Frame.UniqueNames], hs⟩) h
  | arrayNext stack elements =>
      simp only [step, wrong] at h
      split_ifs at h
      · cases h; exact hs
      · exact opened_uniqueNames hs h
  | objectOpen stack =>
      simp only [step, wrong] at h
      split_ifs at h
      · cases h; exact hs
      · cases h; exact complete_uniqueNames hs (.object (by simp) (by simp))
      · cases h
        exact List.forall_mem_cons.mpr ⟨by simp [Frame.UniqueNames], hs⟩
  | objectNext stack members =>
      simp only [step, wrong] at h
      split_ifs at h
      · cases h; exact hs
      · cases h; exact hs
  | inName stack members chars quoted =>
      simp only [step] at h
      split at h <;> cases h <;> exact hs
  | dueColon stack members name =>
      simp only [step, wrong] at h
      split_ifs at h
      · cases h; exact hs
      · cases h
        have hall : (Frame.object members "").UniqueNames ∧ ∀ f ∈ stack, f.UniqueNames :=
          List.forall_mem_cons.mp hs
        exact List.forall_mem_cons.mpr hall
  | inString stack chars quoted =>
      simp only [step] at h
      split at h
      · cases h; exact hs
      · cases h; exact hs
      · cases h; exact complete_uniqueNames hs (.string _)
      · cases h
  | inNumber stack negative n =>
      simp only [step, wrong] at h
      split at h
      · cases h; exact hs
      · cases hn : closeNumber stack negative n with
        | error e => rw [hn] at h; cases h
        | ok next =>
            rw [hn] at h
            exact between_uniqueNames (closeNumber_uniqueNames hs hn) h
      · cases h
  | inWord stack rest v =>
      have hall := List.forall_mem_cons.mp hs
      have hdone : (complete stack v).UniqueNames :=
        complete_uniqueNames hall.2 (hall.1 v List.mem_cons_self)
      simp only [step, wrong] at h
      split at h
      · exact between_uniqueNames hdone h
      · split_ifs at h
        cases h; exact hdone
      · split_ifs at h
        cases h; exact hs
  | arrayRest stack elements => exact between_uniqueNames hs h
  | objectRest stack members => exact between_uniqueNames hs h
  | finished v => exact between_uniqueNames hs h

theorem atEnd_uniqueNames {v : Value} (hs : s.UniqueNames) (h : s.atEnd = .ok v) :
    v.UniqueNames := by
  have hfinished : ∀ w : Value, (finished w).UniqueNames → w.UniqueNames := by
    intro w hw
    simpa [UniqueNames, frames, Frame.UniqueNames] using hw
  cases s with
  | inNumber stack negative n =>
      simp only [atEnd] at h
      split_ifs at h
      cases hn : closeNumber stack negative n with
      | error e => rw [hn] at h; cases h
      | ok next =>
          rw [hn] at h
          have hnext := closeNumber_uniqueNames hs hn
          cases next with
          | finished w => cases h; exact hfinished _ hnext
          | _ => cases h
  | finished w => cases h; exact hfinished _ hs
  | _ => cases h

end State

theorem run_uniqueNames {v : Value} (chars : List Char) (s : State) (place : Position)
    (hs : s.UniqueNames) (h : run s place chars = .ok v) : v.UniqueNames := by
  induction chars generalizing s place with
  | nil =>
      unfold run at h
      cases he : s.atEnd with
      | error fault => rw [he] at h; cases h
      | ok w => rw [he] at h; cases h; exact State.atEnd_uniqueNames hs he
  | cons c rest ih =>
      unfold run at h
      cases hc : s.step c with
      | error e => rw [hc] at h; cases h
      | ok next => rw [hc] at h; exact ih next _ (State.step_uniqueNames hs hc) h

/-- **What is read has unique names.** -/
theorem read_uniqueNames {text : String} {v : Value} (h : read text = .ok v) : v.UniqueNames :=
  run_uniqueNames _ _ _ (by simp [State.UniqueNames, State.frames]) h

end Json

end JsonSchema
