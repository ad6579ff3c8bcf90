import JsonSchema.Proofs.Json.Pointer
import JsonSchema.Proofs.Schema.Places

/-!
# `JsonSchema.Proofs.Schema.Locations` — every violation is at a node of the document

A violation carries the place of a value as tokens, and reports write it as a JSON Pointer, in which a
name and an index look alike. Both lead to the value that was judged, since each token was taken on the
way from a value to one of its parts.

## Contents
- **Steps.** `Value.Step.child?`: the part to which a step leads is found by its token.
- **Places.** `follow_of_reaches`, and the main statement `location_of_violation`.
-/

namespace JsonSchema

variable {policy : FormatPolicy} {schema v s w : Value} {path : Path}

/-! ## Steps -/

/-- Where names are unique, the part to which a step leads is found by its token. -/
theorem Value.Step.child? {t : Token} (hv : v.UniqueNames) (h : v.Step t w) : v.child? t = some w := by
  cases h with
  | member hm => exact Members.get?_of_mem (Value.uniqueNames_object.mp hv).1 hm
  | element hi => exact hi

/-! ## Places -/

/-- The tokens of a place that validation reaches lead to the value that is judged there. -/
theorem follow_of_reaches (hv : v.UniqueNames) (h : Reaches schema v path s w) :
    v.follow path = some w := by
  induction h with
  | here => rfl
  | step gate governs rest ih =>
      have hpart := uniqueNames_of_mem_parts hv (governs.mem_parts gate)
      have hchild := governs.step.child? hv
      rw [Value.follow, hchild]
      exact ih hpart

/-- **Every violation is at a node of the document**: its path leads there token by token, and its pointer
leads to that same node. -/
theorem location_of_violation (policy : FormatPolicy) (calls : List (Value × Value)) (schema : Value)
    (hv : v.UniqueNames) {e : Violation}
    (he : e ∈ ((Validator.after policy calls).validate schema v).1.violations) :
    ∃ w, v.follow e.path = some w ∧ v.resolve e.path.pointer = some (e.path, w) := by
  rw [Validator.validate_after] at he
  obtain ⟨s, w, hreach⟩ := reaches_of_mem he
  have hfollow : v.follow e.path = some w := follow_of_reaches hv hreach
  exact ⟨w, hfollow, Value.resolve_pointer hfollow⟩

/-- Rows of numbers, by drawer and shelf. -/
def drawerSchema : Value :=
  .object [("additionalProperties", .object [("additionalProperties",
    .object [("items", .object [("type", .string "number")])])])]

/-- A drawer and a shelf whose names look like parts of a pointer. -/
def drawerDocument : Value :=
  .object [("a/b", .object [("~1", .array [.string "x"]), ("0", .null), ("", .null)])]

/-- The violation in the row of the shelf. -/
def drawerViolation : Violation :=
  ⟨[.key "a/b", .key "~1", .index 0], "type", "expected number, found string"⟩

theorem location_of_violation_drawer :
    drawerDocument.UniqueNames ∧
      drawerViolation ∈
        ((Validator.after ⟨.empty, false⟩ []).validate drawerSchema drawerDocument).1.violations ∧
      drawerViolation.path.pointer = "/a~1b/~01/0" ∧
      ∃ w, drawerDocument.follow drawerViolation.path = some w ∧
        drawerDocument.resolve drawerViolation.path.pointer = some (drawerViolation.path, w) := by
  have hnames : drawerDocument.UniqueNames := by
    refine .object (by decide) fun name v hm => ?_
    obtain ⟨-, rfl⟩ := Prod.mk.inj (List.mem_singleton.mp hm)
    refine .object (by decide) fun name v hm => ?_
    simp only [List.mem_cons, Prod.mk.injEq, List.not_mem_nil, or_false] at hm
    rcases hm with ⟨-, rfl⟩ | ⟨-, rfl⟩ | ⟨-, rfl⟩ <;> simp
  have hmem : drawerViolation ∈
      ((Validator.after ⟨.empty, false⟩ []).validate drawerSchema drawerDocument).1.violations := by
    decide +kernel
  exact ⟨hnames, hmem, by decide +kernel,
    location_of_violation ⟨.empty, false⟩ [] drawerSchema hnames hmem⟩

end JsonSchema
