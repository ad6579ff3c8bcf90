import JsonSchema.Document.Fault
import JsonSchema.Yaml.Tree

/-!
# `JsonSchema.Yaml.Conversion` — YAML trees as JSON values

Tags are dropped and scalar keys become their texts. Keys with the same text make one member, which
keeps the place of the first and the value of the last.

## Contents
- **Numbers.** `TreeNumber.toNumber?`, and `TreeNumber.toNumber?_finite`: a finite number stays the same.
- **Keys.** `Tree.memberName`.
- **Trees.** `Tree.toValue`.
-/

namespace JsonSchema.Yaml

/-- The number of JSON that a number becomes: an integer in whichever 64-bit view holds it, or else a
finite double. -/
def TreeNumber.toNumber? (n : TreeNumber) : Option Number :=
  match n.signed? with
  | some i => Number.ofInt? i
  | none =>
    match n.unsigned? with
    | some u => Number.ofNat? u
    | none => n.double?.map .double

/-- **A finite number stays the same**: an integer keeps its value up to the ends of 64 bits, whether it
has a sign or not, and a double remains one, even if it is whole. -/
theorem TreeNumber.toNumber?_finite (n : Number) : toNumber? (.finite n) = some n := by
  cases n with
  | double x => rfl
  | integer i low high =>
    by_cases hsmall : i < 2 ^ 63
    · have hsigned : signed? (.finite (.integer i low high)) = some i := by
        rw [signed?, Number.signed?, if_pos hsmall]
      rw [toNumber?, hsigned]
      exact dif_pos ⟨low, high⟩
    · obtain ⟨u, rfl⟩ : ∃ u : Nat, i = u := ⟨i.toNat, by omega⟩
      have hsigned : signed? (.finite (.integer u low high)) = none := by
        rw [signed?, Number.signed?, if_neg hsmall]
      have hunsigned : unsigned? (.finite (.integer u low high)) = some u := by
        rw [unsigned?, Number.unsigned?, if_pos (by omega), Int.toNat_natCast]
      rw [toNumber?, hsigned, hunsigned]
      exact dif_pos high

namespace Tree

/-- The name of a member that a key becomes. -/
def memberName : Tree → Except ConversionFault String
  | .null => .ok "null"
  | .bool true => .ok "true"
  | .bool false => .ok "false"
  | .number n => .ok n.write
  | .string text => .ok text
  | .tagged _ tree => memberName tree
  | .sequence _ | .mapping _ => .error .keyNotScalar

mutual

/-- The value that a tree becomes. -/
def toValue : Tree → Except ConversionFault Value
  | .null => .ok .null
  | .bool b => .ok (.bool b)
  | .number n =>
    match n.toNumber? with
    | some m => .ok (.number m)
    | none => .error (.numberNotFinite n.write)
  | .string text => .ok (.string text)
  | .sequence items => (toElements items).map .array
  | .mapping entries => (toMembers [] entries).map .object
  | .tagged _ tree => toValue tree

/-- The elements that items become. -/
def toElements : List Tree → Except ConversionFault (List Value)
  | [] => .ok []
  | item :: rest =>
    match toValue item with
    | .error e => .error e
    | .ok v => (toElements rest).map (v :: ·)

/-- The members that entries become, set one after the other. -/
def toMembers (members : Members) : List (Tree × Tree) → Except ConversionFault Members
  | [] => .ok members
  | (key, value) :: rest =>
    match memberName key with
    | .error e => .error e
    | .ok name =>
      match toValue value with
      | .error e => .error e
      | .ok v => toMembers (members.insert name v) rest

end

end Tree

end JsonSchema.Yaml
