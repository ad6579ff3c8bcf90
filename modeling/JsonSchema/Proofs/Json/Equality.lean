import Mathlib.Data.List.Forall2
import Mathlib.Data.List.Perm.Subperm
import JsonSchema.Proofs.Json.Numbers
import JsonSchema.Proofs.Json.UniqueNames

/-!
# `JsonSchema.Proofs.Json.Equality` — the laws of equality by value

Two objects are equal if they have as many members and each member on the left has an equal one of its name
on the right. That the right one has no other members is nowhere checked: it follows from the counts, as
long as no name comes twice. So equality is reflexive and symmetric on values with unique names.

It is not transitive on all values, because it is not on all numbers. An integer is equal to a double if
rounding turns it into this double, and rounding turns several integers into one.

## Contents
- **Induction.** `Value.nested_induction`.
- **Members and elements.** `equivElements_iff`, `equivMembers_iff`; `equiv_array_iff`, `equiv_object_iff`.
- **Relation.** `Value.EqualTo`, and `equiv_iff_equalTo`: what equality is, apart from how it is decided.
- **Laws.** `equiv_self`, `equiv_symm`, `equiv_comm`.
- **Numbers inside.** `Value.HoldsNumber`, and `equiv_trans_of`.
- **By value.** `equiv_by_value`, and `rounded_equal`: the integer 2⁵³ + 1 is equal to the double 2⁵³.
-/

namespace JsonSchema.Value

/-! ## Induction -/

/-- **Induction over values.** What holds of a value whenever it holds of its elements and of the values of
its members, holds of every value. -/
@[elab_as_elim]
theorem nested_induction {motive : Value → Prop} (null : motive .null) (bool : ∀ flag, motive (.bool flag))
    (number : ∀ n, motive (.number n)) (string : ∀ text, motive (.string text))
    (array : ∀ elements, (∀ e ∈ elements, motive e) → motive (.array elements))
    (object : ∀ members : Members, (∀ m ∈ members, motive m.2) → motive (.object members)) (v : Value) :
    motive v := by
  induction hn : sizeOf v using Nat.strongRecOn generalizing v with
  | ind n ih =>
      subst hn
      cases v with
      | null => exact null
      | bool flag => exact bool flag
      | number n => exact number n
      | string text => exact string text
      | array elements =>
          exact array elements fun e he => ih (sizeOf e) (sizeOf_lt_of_mem_elements he) e rfl
      | object members =>
          exact object members fun m hm => ih (sizeOf m.2) (sizeOf_lt_of_mem_members hm) m.2 rfl

/-! ## Members and elements -/

section Equations

attribute [local simp] equiv equivElements equivMembers

theorem equivElements_iff {as bs : List Value} :
    equivElements as bs = true ↔ List.Forall₂ (fun a b => a.equiv b = true) as bs := by
  induction as generalizing bs with
  | nil => cases bs <;> simp
  | cons a as ih => cases bs <;> simp [ih]

theorem equivMembers_iff {as bs : Members} :
    equivMembers as bs = true ↔ ∀ m ∈ as, ∃ b, bs.get? m.1 = some b ∧ m.2.equiv b = true := by
  induction as with
  | nil => simp
  | cons m as ih =>
      obtain ⟨name, a⟩ := m
      rw [equivMembers, Bool.and_eq_true, ih, List.forall_mem_cons]
      refine and_congr_left fun _ => ?_
      cases bs.get? name <;> simp

/-- What is equal to an array is an array with equal elements in the same order. -/
theorem equiv_array_iff {as : List Value} {w : Value} :
    (array as).equiv w = true ↔ ∃ bs, w = .array bs ∧ List.Forall₂ (fun a b => a.equiv b = true) as bs := by
  cases w with
  | array bs => rw [equiv, equivElements_iff]; simp
  | _ => simp

/-- What is equal to an object is an object with as many members, among them an equal one for each. -/
theorem equiv_object_iff {as : Members} {w : Value} :
    (object as).equiv w = true ↔ ∃ bs : Members, w = .object bs ∧ as.length = bs.length ∧
      ∀ m ∈ as, ∃ b, bs.get? m.1 = some b ∧ m.2.equiv b = true := by
  cases w with
  | object bs => rw [equiv, Bool.and_eq_true, beq_iff_eq, equivMembers_iff]; simp
  | _ => simp

theorem equiv_null_iff {w : Value} : null.equiv w = true ↔ w = .null := by cases w <;> simp

theorem equiv_bool_iff {flag : Bool} {w : Value} : (bool flag).equiv w = true ↔ w = .bool flag := by
  cases w with
  | bool other => rw [equiv, beq_iff_eq, bool.injEq, eq_comm]
  | _ => simp

theorem equiv_string_iff {text : String} {w : Value} :
    (string text).equiv w = true ↔ w = .string text := by
  cases w with
  | string other => rw [equiv, beq_iff_eq, string.injEq, eq_comm]
  | _ => simp

theorem equiv_number_iff {a : Number} {w : Value} :
    (number a).equiv w = true ↔ ∃ b, w = .number b ∧ a.compare b = .eq := by
  cases w <;> simp

end Equations

/-! ## Relation -/

/-- **Equality of values.** Numbers are equal as `Number.EqualTo` says. Arrays are equal with equal elements
place by place, objects with as many members and for each member on the left an equal one of its name on the
right. -/
inductive EqualTo : Value → Value → Prop where
  | null : EqualTo .null .null
  | bool (flag : Bool) : EqualTo (.bool flag) (.bool flag)
  | number {a b : Number} (equal : a.EqualTo b) : EqualTo (.number a) (.number b)
  | string (text : String) : EqualTo (.string text) (.string text)
  | array {as bs : List Value} (length : as.length = bs.length)
      (each : ∀ (i : Nat) a b, as[i]? = some a → bs[i]? = some b → EqualTo a b) :
      EqualTo (.array as) (.array bs)
  | object {as bs : Members} (length : as.length = bs.length)
      (found : ∀ name a, (name, a) ∈ as → ∃ b, bs.get? name = some b)
      (each : ∀ name a b, (name, a) ∈ as → bs.get? name = some b → EqualTo a b) :
      EqualTo (.object as) (.object bs)

/-- Lists are related element by element if they are so at each place. -/
theorem forall₂_iff_getElem? {related : Value → Value → Prop} {as bs : List Value} :
    List.Forall₂ related as bs ↔ as.length = bs.length ∧
      ∀ (i : Nat) a b, as[i]? = some a → bs[i]? = some b → related a b := by
  rw [List.forall₂_iff_get]
  refine and_congr_right fun _ => ⟨fun h i a b ha hb => ?_, fun h i ha hb => ?_⟩
  · obtain ⟨hia, rfl⟩ := List.getElem?_eq_some_iff.mp ha
    obtain ⟨hib, rfl⟩ := List.getElem?_eq_some_iff.mp hb
    exact h i hia hib
  · exact h i _ _ (List.getElem?_eq_getElem ha) (List.getElem?_eq_getElem hb)

/-- **The decision on equality is right**, also where a name comes twice. -/
theorem equiv_iff_equalTo {v w : Value} : v.equiv w = true ↔ v.EqualTo w := by
  induction v using nested_induction generalizing w with
  | null =>
      rw [equiv_null_iff]
      exact ⟨fun h => h ▸ .null, fun h => by cases h; rfl⟩
  | bool flag =>
      rw [equiv_bool_iff]
      exact ⟨fun h => h ▸ .bool flag, fun h => by cases h; rfl⟩
  | string text =>
      rw [equiv_string_iff]
      exact ⟨fun h => h ▸ .string text, fun h => by cases h; rfl⟩
  | number a =>
      simp only [equiv_number_iff, Number.compare_eq_iff_equalTo]
      constructor
      · rintro ⟨b, rfl, hequal⟩
        exact .number hequal
      · intro h
        cases h with
        | number hequal => exact ⟨_, rfl, hequal⟩
  | array as ih =>
      simp only [equiv_array_iff, forall₂_iff_getElem?]
      constructor
      · rintro ⟨bs, rfl, hlength, heach⟩
        exact .array hlength fun i a b ha hb => (ih a (List.mem_of_getElem? ha)).mp (heach i a b ha hb)
      · intro h
        cases h with
        | array hlength heach =>
            exact ⟨_, rfl, hlength, fun i a b ha hb =>
              (ih a (List.mem_of_getElem? ha)).mpr (heach i a b ha hb)⟩
  | object as ih =>
      rw [equiv_object_iff]
      constructor
      · rintro ⟨bs, rfl, hlength, hfound⟩
        refine .object hlength (fun name a ha => ?_) fun name a b ha hb => ?_
        · obtain ⟨b, hb, -⟩ := hfound (name, a) ha
          exact ⟨b, hb⟩
        · obtain ⟨b', hb', hequal⟩ := hfound (name, a) ha
          obtain rfl : b = b' := Option.some.inj (hb.symm.trans hb')
          exact (ih (name, a) ha).mp hequal
      · intro h
        cases h with
        | @object _ bs hlength hfound heach =>
            refine ⟨bs, rfl, hlength, fun m hm => ?_⟩
            obtain ⟨b, hb⟩ := hfound m.1 m.2 hm
            exact ⟨b, hb, (ih m hm).mpr (heach m.1 m.2 b hm hb)⟩

/-! ## Laws -/

theorem equiv_self {v : Value} (h : v.UniqueNames) : v.equiv v = true := by
  induction h with
  | null => exact equiv_null_iff.mpr rfl
  | bool flag => exact equiv_bool_iff.mpr rfl
  | string text => exact equiv_string_iff.mpr rfl
  | number n => exact equiv_number_iff.mpr ⟨n, rfl, n.compare_self⟩
  | @array elements each ih => exact equiv_array_iff.mpr ⟨elements, rfl, List.forall₂_same.mpr ih⟩
  | @object members names each ih =>
      refine equiv_object_iff.mpr ⟨members, rfl, rfl, fun m hm => ⟨m.2, ?_, ih m.1 m.2 hm⟩⟩
      exact Members.get?_of_mem names hm

/-- Objects of as many members, each with one of its name on the other side, have the same names. -/
theorem names_subset_of_equiv {as bs : Members} (has : (as.map Prod.fst).Nodup)
    (hlength : as.length = bs.length) (hfound : ∀ m ∈ as, ∃ b, bs.get? m.1 = some b ∧ m.2.equiv b = true) :
    bs.map Prod.fst ⊆ as.map Prod.fst := by
  have hsubset : as.map Prod.fst ⊆ bs.map Prod.fst := by
    intro name hname
    obtain ⟨m, hm, rfl⟩ := List.mem_map.mp hname
    obtain ⟨b, hb, -⟩ := hfound m hm
    exact List.mem_map.mpr ⟨(m.1, b), Members.mem_of_get? hb, rfl⟩
  have hperm := (has.subperm hsubset).perm_of_length_le (by simp [hlength])
  exact hperm.symm.subset

/-- **Equality is symmetric** on values with unique names. -/
theorem equiv_symm {v w : Value} (hv : v.UniqueNames) (hw : w.UniqueNames) (h : v.equiv w = true) :
    w.equiv v = true := by
  induction hv generalizing w with
  | null => rw [equiv_null_iff.mp h, equiv_null_iff]
  | bool flag => rw [equiv_bool_iff.mp h, equiv_bool_iff]
  | string text => rw [equiv_string_iff.mp h, equiv_string_iff]
  | number n =>
      obtain ⟨b, rfl, heq⟩ := equiv_number_iff.mp h
      exact equiv_number_iff.mpr ⟨n, rfl, Number.compare_eq_comm.mp heq⟩
  | @array as each ih =>
      obtain ⟨bs, rfl, hpairs⟩ := equiv_array_iff.mp h
      refine equiv_array_iff.mpr ⟨as, rfl, ?_⟩
      rw [List.forall₂_iff_get] at hpairs ⊢
      obtain ⟨hlength, hpairs⟩ := hpairs
      refine ⟨hlength.symm, fun i hb ha => ?_⟩
      have hnames : (bs.get ⟨i, hb⟩).UniqueNames := uniqueNames_array.mp hw _ (List.get_mem bs ⟨i, hb⟩)
      exact ih _ (List.get_mem as ⟨i, ha⟩) hnames (hpairs i ha hb)
  | @object as names each ih =>
      obtain ⟨bs, rfl, hlength, hfound⟩ := equiv_object_iff.mp h
      obtain ⟨names', each'⟩ := uniqueNames_object.mp hw
      refine equiv_object_iff.mpr ⟨as, rfl, hlength.symm, fun m hm => ?_⟩
      -- the name of a member on the right is one on the left, where it finds this very member
      obtain ⟨⟨name, a⟩, hmem, hname⟩ :=
        List.mem_map.mp (names_subset_of_equiv names hlength hfound (List.mem_map_of_mem hm))
      obtain rfl : name = m.1 := hname
      obtain ⟨b, hb, heq⟩ := hfound (m.1, a) hmem
      obtain rfl : m.2 = b := Option.some.inj ((Members.get?_of_mem names' hm).symm.trans hb)
      exact ⟨a, Members.get?_of_mem names hmem, ih m.1 a hmem (each' m.1 m.2 hm) heq⟩

theorem equiv_comm {v w : Value} (hv : v.UniqueNames) (hw : w.UniqueNames) : v.equiv w = w.equiv v :=
  Bool.eq_iff_iff.mpr ⟨equiv_symm hv hw, equiv_symm hw hv⟩

/-! ## Numbers inside -/

/-- A number stands somewhere in a value. -/
inductive HoldsNumber (n : Number) : Value → Prop where
  | here : HoldsNumber n (.number n)
  | element {elements : List Value} {e : Value} (mem : e ∈ elements) (inside : HoldsNumber n e) :
      HoldsNumber n (.array elements)
  | member {members : Members} {name : String} {w : Value} (mem : (name, w) ∈ members)
      (inside : HoldsNumber n w) : HoldsNumber n (.object members)

/-- **Equality passes on where it passes on from number to number.** Nothing but numbers can stop it. -/
theorem equiv_trans_of {u v w : Value}
    (numbers : ∀ a b c : Number, u.HoldsNumber a → v.HoldsNumber b → w.HoldsNumber c →
      a.compare b = .eq → b.compare c = .eq → a.compare c = .eq)
    (huv : u.equiv v = true) (hvw : v.equiv w = true) : u.equiv w = true := by
  induction u using nested_induction generalizing v w with
  | null => rwa [equiv_null_iff.mp huv] at hvw
  | bool flag => rwa [equiv_bool_iff.mp huv] at hvw
  | string text => rwa [equiv_string_iff.mp huv] at hvw
  | number a =>
      obtain ⟨b, rfl, hab⟩ := equiv_number_iff.mp huv
      obtain ⟨c, rfl, hbc⟩ := equiv_number_iff.mp hvw
      exact equiv_number_iff.mpr ⟨c, rfl, numbers a b c .here .here .here hab hbc⟩
  | array as ih =>
      obtain ⟨bs, rfl, hab⟩ := equiv_array_iff.mp huv
      obtain ⟨cs, rfl, hbc⟩ := equiv_array_iff.mp hvw
      refine equiv_array_iff.mpr ⟨cs, rfl, ?_⟩
      rw [List.forall₂_iff_get] at hab hbc ⊢
      refine ⟨hab.1.trans hbc.1, fun i ha hc => ?_⟩
      have hb : i < bs.length := hbc.1 ▸ hc
      have hmem : as.get ⟨i, ha⟩ ∈ as := List.get_mem as ⟨i, ha⟩
      refine ih _ hmem (fun a b c hua hvb hwc => ?_) (hab.2 i ha hb) (hbc.2 i hb hc)
      exact numbers a b c (.element hmem hua) (.element (List.get_mem bs ⟨i, hb⟩) hvb)
        (.element (List.get_mem cs ⟨i, hc⟩) hwc)
  | object as ih =>
      obtain ⟨bs, rfl, hlength, hab⟩ := equiv_object_iff.mp huv
      obtain ⟨cs, rfl, hlength', hbc⟩ := equiv_object_iff.mp hvw
      refine equiv_object_iff.mpr ⟨cs, rfl, hlength.trans hlength', fun m hm => ?_⟩
      obtain ⟨b, hb, heq⟩ := hab m hm
      obtain ⟨c, hc, heq'⟩ := hbc (m.1, b) (Members.mem_of_get? hb)
      refine ⟨c, hc, ih m hm (fun x y z hx hy hz => ?_) heq heq'⟩
      exact numbers x y z (.member hm hx) (.member (Members.mem_of_get? hb) hy)
        (.member (Members.mem_of_get? hc) hz)

/-! ## By value -/

/-- **Numbers are equal by value but for those that rounding makes one.** Of two integers, and of two numbers
that are rounded to one value only if they have one, equality is equality by value; of no others is it. The
value that a number is rounded to is that of a double, and no double is nearer. Two values that are equal to
a third one are equal to each other if this holds no numbers but integers, or if doubles have the values of
all numbers that the two hold. -/
theorem equiv_by_value (a b : Number) (u v w : Value) :
    (((number a).equiv (.number b) = true ↔ a.value = b.value) ↔
      a.IsInteger ∧ b.IsInteger ∨ (a.rounded = b.rounded → a.value = b.value)) ∧
    (∃ x, (Number.double x).value = a.rounded) ∧
    (∀ y, |a.rounded - a.value| ≤ |(Number.double y).value - a.value|) ∧
    ((∀ n, v.HoldsNumber n → n.IsInteger) ∨
        (∀ n, u.HoldsNumber n → n.HasDouble) ∧ (∀ n, w.HoldsNumber n → n.HasDouble) →
      u.equiv v = true → v.equiv w = true → u.equiv w = true) := by
  refine ⟨?_, ⟨a.toDouble, rfl⟩, a.abs_rounded_sub_le, fun h => ?_⟩
  · rw [← Number.compare_exact_iff, equiv, beq_iff_eq]
  · refine equiv_trans_of fun a b c ha hb hc => Number.compare_trans ?_
    exact h.imp (fun hv => hv b hb) fun huw => ⟨huw.1 a ha, huw.2 c hc⟩

/-- Three in both notations: the two are equal by value, and so are arrays that hold them. -/
theorem equiv_by_value_three :
    let three : Number := .integer 3 (by decide) (by decide)
    let same : Number := .double three.toDouble
    (number three).equiv (.number same) = true ∧
      (array [.number same]).equiv (.array [.number same]) = true := by
  intro three same
  have hvalue : same.value = three.value := Number.rounded_eq_value (Number.hasDouble_integer (by decide))
  have hrule := equiv_by_value three same (.array [.number same]) (.array [.number three])
    (.array [.number same])
  have hequal : (number three).equiv (.number same) = true :=
    (hrule.1.mpr (.inr fun _ => hvalue.symm)).mpr hvalue.symm
  refine ⟨hequal, hrule.2.2.2 (.inl ?_) (by decide +kernel) (equiv_array_iff.mpr ⟨_, rfl, .cons hequal .nil⟩)⟩
  intro n hn
  cases hn with
  | element mem inside =>
      rw [List.mem_singleton.mp mem] at inside
      cases inside with
      | here => trivial

/-- 2⁵³ + 1 and 2⁵³ are both equal to the double 2⁵³, and not to each other. -/
theorem rounded_equal :
    let odd : Number := .integer (2 ^ 53 + 1) (by decide) (by decide)
    let even : Number := .integer (2 ^ 53) (by decide) (by decide)
    let rounded : Number := .double even.toDouble
    (number odd).equiv (.number rounded) = true ∧ odd.value ≠ rounded.value ∧
      (number rounded).equiv (.number even) = true ∧ (number odd).equiv (.number even) = false := by
  intro odd even rounded
  refine ⟨by decide +kernel, fun hvalue => ?_, by decide +kernel, by decide +kernel⟩
  exact absurd (Number.value_eq_iff.mp hvalue) (by decide +kernel)

end JsonSchema.Value
