import JsonSchema.Pointer
import JsonSchema.Proofs.Json.UniqueNames

/-!
# `JsonSchema.Proofs.Json.Without` — a document with some members taken out

Members are taken out at all places at once: which ones is said by the path of the object and the name of
the member. A member that stays is looked up as before, itself without what is taken out below it.

## Contents
- **Taking out.** `Value.without`, `Members.without`, `Value.elementsWithout`.
- **Look-up.** `Members.get?_without`, and `Value.without_nothing`.
-/

namespace JsonSchema

/-! ## Taking out -/

mutual

/-- A value without the members that are gone, each said by the path of its object and its name. -/
def Value.without (gone : Path → String → Bool) : Value → Value
  | .object members => .object (Members.without gone members)
  | .array elements => .array (Value.elementsWithout gone 0 elements)
  | v => v

/-- The members of an object that are not gone, each without what is gone inside it. -/
def Members.without (gone : Path → String → Bool) : Members → Members
  | [] => []
  | (name, v) :: rest =>
    if gone [] name then Members.without gone rest
    else (name, v.without fun path => gone (.key name :: path)) :: Members.without gone rest

/-- The elements of an array from a position on, each without what is gone inside it. -/
def Value.elementsWithout (gone : Path → String → Bool) : Nat → List Value → List Value
  | _, [] => []
  | i, v :: rest =>
    v.without (fun path => gone (.index i :: path)) :: Value.elementsWithout gone (i + 1) rest

end

/-! ## Look-up -/

/-- A member that stays is looked up under its name, without what is gone inside it. -/
theorem Members.get?_without (gone : Path → String → Bool) (members : Members) (name : String) :
    Members.get? (Members.without gone members) name =
      if gone [] name then none
      else (Members.get? members name).map (Value.without fun path => gone (.key name :: path)) := by
  induction members with
  | nil => simp [Members.without]
  | cons m rest ih =>
      obtain ⟨k, v⟩ := m
      rw [Members.without]
      by_cases hgone : gone [] k = true
      · rw [if_pos hgone, ih, get?_cons]
        by_cases hname : name = k
        · rw [hname, if_pos hgone, if_pos hgone]
        · rw [if_neg hname]
      · rw [if_neg hgone, get?_cons, get?_cons, ih]
        by_cases hname : name = k
        · rw [if_pos hname, if_pos hname, hname, if_neg hgone]
          rfl
        · rw [if_neg hname, if_neg hname]

mutual

/-- Where nothing is gone, nothing changes. -/
@[simp] theorem Value.without_nothing : ∀ v : Value, v.without (fun _ _ => false) = v
  | .object members => by rw [Value.without, Members.without_nothing members]
  | .array elements => by rw [Value.without, Value.elementsWithout_nothing 0 elements]
  | .null | .bool _ | .number _ | .string _ => by rw [Value.without] <;> simp

theorem Members.without_nothing :
    ∀ members : Members, Members.without (fun _ _ => false) members = members
  | [] => by rw [Members.without]
  | (name, v) :: rest => by
      rw [Members.without, if_neg (by simp), Value.without_nothing v, Members.without_nothing rest]

theorem Value.elementsWithout_nothing :
    ∀ (i : Nat) (elements : List Value), Value.elementsWithout (fun _ _ => false) i elements = elements
  | _, [] => by rw [Value.elementsWithout]
  | i, v :: rest => by
      rw [Value.elementsWithout, Value.without_nothing v, Value.elementsWithout_nothing (i + 1) rest]

end

end JsonSchema
