import JsonSchema.Proofs.Json.Reordered
import JsonSchema.Proofs.Schema.Keywords
import JsonSchema.Proofs.Schema.PatternCache

/-!
# `JsonSchema.Proofs.Schema.MemberOrder` — verdicts look past the order of members

A verdict comes in the order of the document, so moving members about moves violations about. Nothing
else changes: the same keywords are violated at the same places. Messages stay as well, except that
`enum` and `const` show the value, and so its members in their order.

## Contents
- **Reports in any order.** `Violation.faded`, and `SameReports` with its closure lemmas.
- **One value.** `opens_of_reordered`, `keywordViolations_of_reordered`, `ownViolations_of_reordered`.
- **Parts.** `flatMap_parts_object`, `flatMap_parts_array`.
- **Verdicts.** `violations_of_reordered`, and the main statement `validate_of_reordered`.
-/

namespace JsonSchema

/-! ## Reports in any order -/

/-- The keywords whose messages show the value. -/
def showsValue (keyword : String) : Bool :=
  keyword == Keyword.enum.name || keyword == Keyword.const.name

/-- A violation without a message that shows the value. -/
def Violation.faded (e : Violation) : Violation :=
  if showsValue e.keyword then { e with message := "" } else e

namespace Violation

@[simp] theorem path_faded (e : Violation) : e.faded.path = e.path := by
  unfold faded
  cases showsValue e.keyword <;> rfl

@[simp] theorem keyword_faded (e : Violation) : e.faded.keyword = e.keyword := by
  unfold faded
  cases showsValue e.keyword <;> rfl

theorem faded_of_not_shows {e : Violation} (h : showsValue e.keyword = false) : e.faded = e := by
  rw [faded, if_neg (by rw [h]; exact Bool.false_ne_true)]

theorem faded_under (path : Path) (e : Violation) : (e.under path).faded = e.faded.under path := by
  unfold faded
  rw [keyword_under]
  cases showsValue e.keyword <;> rfl

end Violation

/-- **The same is reported**, in whatever order and however a value is shown. -/
def SameReports (es fs : List Violation) : Prop :=
  (es.map Violation.faded).Perm (fs.map Violation.faded)

namespace SameReports

variable {es es' fs fs' : List Violation}

theorem refl (es : List Violation) : SameReports es es := List.Perm.refl _

theorem trans {gs : List Violation} (h : SameReports es fs) (h' : SameReports fs gs) :
    SameReports es gs := List.Perm.trans h h'

theorem of_perm (h : es.Perm fs) : SameReports es fs := h.map Violation.faded

theorem append (h : SameReports es fs) (h' : SameReports es' fs') :
    SameReports (es ++ es') (fs ++ fs') := by
  unfold SameReports
  rw [List.map_append, List.map_append]
  exact List.Perm.append h h'

theorem flatMap {α : Type} {l : List α} {f g : α → List Violation}
    (h : ∀ a ∈ l, SameReports (f a) (g a)) : SameReports (l.flatMap f) (l.flatMap g) := by
  unfold SameReports
  rw [List.map_flatMap, List.map_flatMap]
  exact List.Perm.flatMap_left l h

theorem under (path : Path) (h : SameReports es fs) :
    SameReports (es.map (Violation.under path)) (fs.map (Violation.under path)) := by
  have hfaded : ∀ gs : List Violation, (gs.map (Violation.under path)).map Violation.faded =
      (gs.map Violation.faded).map (Violation.under path) := by
    intro gs
    rw [List.map_map, List.map_map]
    exact List.map_congr_left fun e _ => Violation.faded_under path e
  unfold SameReports
  rw [hfaded, hfaded]
  exact List.Perm.map _ h

/-- The same keywords are violated at the same places, as often on either side. -/
theorem perm_places (h : SameReports es fs) :
    (es.map fun e => (e.path, e.keyword)).Perm (fs.map fun e => (e.path, e.keyword)) := by
  have hplaces := List.Perm.map (fun e : Violation => (e.path, e.keyword)) h
  simpa only [List.map_map, Function.comp_def, Violation.path_faded, Violation.keyword_faded]
    using hplaces

/-- The violations whose messages do not show the value are the same. -/
theorem perm_filter (h : SameReports es fs) :
    (es.filter fun e => !showsValue e.keyword).Perm (fs.filter fun e => !showsValue e.keyword) := by
  -- fading neither moves a violation across the filter nor changes one that passes it
  have hfaded : ∀ gs : List Violation, (gs.map Violation.faded).filter (fun e => !showsValue e.keyword) =
      gs.filter fun e => !showsValue e.keyword := by
    intro gs
    rw [List.filter_map]
    simp only [Function.comp_def, Violation.keyword_faded]
    rw [List.map_congr_left (g := id), List.map_id]
    intro e he
    have hplain := (List.mem_filter.mp he).2
    exact Violation.faded_of_not_shows (Bool.not_eq_true' _ ▸ hplain)
  have hfilter := List.Perm.filter (fun e : Violation => !showsValue e.keyword) h
  rwa [hfaded, hfaded] at hfilter

/-- If nothing is reported on one side, nothing is on the other. -/
theorem isEmpty_eq (h : SameReports es fs) : es.isEmpty = fs.isEmpty := by
  have hlength := List.Perm.length_eq h
  rw [List.length_map, List.length_map] at hlength
  rw [Bool.eq_iff_iff, List.isEmpty_iff_length_eq_zero, List.isEmpty_iff_length_eq_zero, hlength]

end SameReports

/-! ## One value -/

section OneValue

variable {policy : FormatPolicy} {rules : Rules} {schema v w : Value}

theorem Value.Reordered.kind_eq (h : v.Reordered w) : v.kind = w.kind := by
  cases h <;> rfl

theorem Value.Reordered.hasType_eq (h : v.Reordered w) (name : String) :
    v.hasType name = w.hasType name := by
  cases h with
  | same => rfl
  | array pairs each =>
      unfold hasType
      cases TypeName.ofName? name with
      | none => rfl
      | some t => cases t <;> rfl
  | object rows left right each =>
      unfold hasType
      cases TypeName.ofName? name with
      | none => rfl
      | some t => cases t <;> rfl

/-- The type lets both values through, or neither. -/
theorem opens_of_reordered (h : v.Reordered w) : rules.opens v = rules.opens w := by
  have htypes : v.hasType = w.hasType := funext h.hasType_eq
  unfold Rules.opens
  rw [htypes]

theorem openRules?_of_reordered (h : v.Reordered w) : openRules? schema v = openRules? schema w := by
  unfold openRules?
  cases schema with
  | object rules =>
      have hopens : Rules.opens rules v = Rules.opens rules w := opens_of_reordered h
      simp only [hopens]
  | _ => rfl

/-- A limit that is broken on both sides or neither makes the same report, whatever is shown. -/
theorem sameReports_breachOf {α : Type} {limit : Option α} {broken broken' : α → Bool}
    {b b' : α → Breach} (hbroken : ∀ l, broken l = broken' l)
    (hfaded : ∀ l, (violation (b l)).faded = (violation (b' l)).faded) :
    SameReports ((breachOf limit broken b).map violation) ((breachOf limit broken' b').map violation) := by
  cases limit with
  | none => exact .refl []
  | some l =>
      simp only [breachOf, hbroken l]
      cases broken' l with
      | false => exact .refl []
      | true =>
          show List.Perm [(violation (b l)).faded] [(violation (b' l)).faded]
          rw [hfaded l]

theorem sameReports_enum (h : Value.EquivAlike v w) :
    SameReports (keywordViolations policy rules v .enum) (keywordViolations policy rules w .enum) := by
  simp only [keywordViolations]
  refine sameReports_breachOf (fun values => ?_) fun _ => rfl
  rw [funext h]

theorem sameReports_const (h : Value.EquivAlike v w) :
    SameReports (keywordViolations policy rules v .const) (keywordViolations policy rules w .const) := by
  simp only [keywordViolations]
  refine sameReports_breachOf (fun c => ?_) fun _ => rfl
  rw [h c]

/-- **Each keyword reports the same.** Members are asked for by name, except those that are not declared,
which are reported in their order. -/
theorem keywordViolations_of_reordered (h : v.Reordered w) (hv : v.UniqueNames) (k : Keyword) :
    SameReports (keywordViolations policy rules v k) (keywordViolations policy rules w k) := by
  have halike : Value.EquivAlike v w := Value.equiv_of_reordered h hv
  cases h with
  | same => exact .refl _
  | array pairs each =>
      cases k with
      | enum => exact sameReports_enum halike
      | const => exact sameReports_const halike
      | minItems | maxItems =>
          simp only [keywordViolations, List.length_map]
          exact .refl _
      | _ => exact .refl _
  | @object members members' rows left right each =>
      have hnames := (Value.uniqueNames_object.mp hv).1
      cases k with
      | enum => exact sameReports_enum halike
      | const => exact sameReports_const halike
      | required =>
          simp only [keywordViolations, has_of_rows left right hnames]
          exact .refl _
      | additionalProperties =>
          simp only [keywordViolations]
          cases rules.forbidsOthers with
          | false => exact .refl _
          | true =>
              have hperm := names_perm_of_rows left right
              exact .of_perm ((hperm.filter _).map _)
      | _ => exact .refl _

/-- **The same is reported of the two values themselves.** -/
theorem ownViolations_of_reordered (h : v.Reordered w) (hv : v.UniqueNames) (schema : Value) :
    SameReports (ownViolations policy schema v) (ownViolations policy schema w) := by
  cases schema with
  | object rules =>
      have hopens : Rules.opens rules v = Rules.opens rules w := opens_of_reordered h
      by_cases hopen : Rules.opens rules v = true
      · rw [ownViolations_of_open hopen, ownViolations_of_open (hopens ▸ hopen)]
        exact .flatMap fun k _ => keywordViolations_of_reordered h hv k
      · rw [ownViolations_of_closed hopen, ownViolations_of_closed (hopens ▸ hopen), h.kind_eq]
        exact .refl _
  | bool b => cases b <;> exact .refl _
  | _ => exact .refl _

end OneValue

/-! ## Parts -/

/-- What is gathered over the parts of an object is gathered member by member. -/
theorem flatMap_parts_object {α : Type} (rules : Rules) (members : Members) (f : Part → List α) :
    (rules.parts (.object members)).flatMap f =
      members.flatMap fun m => (rules.memberSchema? m.1).toList.flatMap fun s =>
        f ⟨.key m.1, s, m.2⟩ := by
  induction members with
  | nil => rfl
  | cons m rest ih =>
      rw [List.flatMap_cons, ← ih]
      simp only [Rules.parts, List.filterMap_cons]
      cases rules.memberSchema? m.1 with
      | none => rfl
      | some s =>
          simp only [Option.map_some, List.flatMap_cons, Option.toList_some, List.flatMap_nil,
            List.append_nil]

/-- What is gathered over the parts of an array is gathered element by element. -/
theorem flatMap_parts_array {α : Type} (rules : Rules) (elements : List Value) (f : Part → List α) :
    (rules.parts (.array elements)).flatMap f =
      rules.elementSchema?.toList.flatMap fun s => elements.zipIdx.flatMap fun e =>
        f ⟨.index e.2, s, e.1⟩ := by
  unfold Rules.parts
  cases rules.elementSchema? with
  | none => rfl
  | some s =>
      rw [Option.toList_some, List.flatMap_singleton, List.flatMap_map]

/-! ## Verdicts -/

section Verdicts

variable {policy : FormatPolicy} {v w : Value}

/-- **The same is reported of two documents that differ in the order of members alone.** -/
theorem violations_of_reordered (h : v.Reordered w) (hv : v.UniqueNames) (schema : Value) :
    SameReports (validate policy schema v).violations (validate policy schema w).violations := by
  -- the induction is over what has been reordered, so that each row brings its own hypothesis
  induction h generalizing schema with
  | same v => exact .refl _
  | array pairs each ih =>
      have hwhole := Value.Reordered.array pairs each
      rw [violations_eq, violations_eq]
      refine .append (ownViolations_of_reordered hwhole hv schema) ?_
      unfold parts
      rw [← openRules?_of_reordered hwhole]
      cases openRules? schema (.array (pairs.map Prod.fst)) with
      | none => exact .refl _
      | some rules =>
          simp only [flatMap_parts_array, List.zipIdx_map, List.flatMap_map]
          refine .flatMap fun s _ => .flatMap fun p hp => .under _ ?_
          have hpair : p.1 ∈ pairs := List.fst_mem_of_mem_zipIdx hp
          have hleft := Value.uniqueNames_array.mp hv p.1.1 (List.mem_map_of_mem hpair)
          exact ih p.1 hpair hleft s
  | @object members members' rows left right each ih =>
      have hwhole := Value.Reordered.object rows left right each
      rw [violations_eq, violations_eq]
      refine .append (ownViolations_of_reordered hwhole hv schema) ?_
      unfold parts
      rw [← openRules?_of_reordered hwhole]
      cases openRules? schema (.object members) with
      | none => exact .refl _
      | some rules =>
          simp only [flatMap_parts_object]
          -- both sides are brought to the order of the rows, where they differ row by row
          refine (SameReports.of_perm (left.flatMap_right _)).trans ?_
          refine .trans ?_ (SameReports.of_perm (right.flatMap_right _).symm)
          simp only [List.flatMap_map]
          refine .flatMap fun r hr => .flatMap fun s _ => .under _ ?_
          exact ih r hr (uniqueNames_of_row left hv hr) s

/-- **The order of members does not matter**: documents that differ in it alone are both valid or both
invalid, and violate the same keywords at the same places, with the same messages unless a message
shows the value. -/
theorem validate_of_reordered (policy : FormatPolicy) (calls calls' : List (Value × Value))
    (schema : Value) (hv : v.UniqueNames) (h : v.Reordered w) :
    let left := ((Validator.after policy calls).validate schema v).1
    let right := ((Validator.after policy calls').validate schema w).1
    left.valid = right.valid ∧
      (left.violations.map fun e => (e.path, e.keyword)).Perm
        (right.violations.map fun e => (e.path, e.keyword)) ∧
      (left.violations.filter fun e => e.keyword ≠ "enum" ∧ e.keyword ≠ "const").Perm
        (right.violations.filter fun e => e.keyword ≠ "enum" ∧ e.keyword ≠ "const") := by
  simp only [Validator.validate_after]
  have hsame : SameReports (validate policy schema v).violations (validate policy schema w).violations :=
    violations_of_reordered h hv schema
  have hshows : (fun e : Violation => decide (e.keyword ≠ "enum" ∧ e.keyword ≠ "const")) =
      fun e => !showsValue e.keyword := by
    funext e
    simp [showsValue, Keyword.name, beq_eq_decide]
  rw [hshows]
  exact ⟨hsame.isEmpty_eq, hsame.perm_places, hsame.perm_filter⟩

/-- A schema for labels: nothing but zero, and nothing in the member `size`. -/
def labelSchema : Value :=
  .object
    [("const", .number (.integer 0 (by decide) (by decide))),
      ("properties", .object [("size", .object [("additionalProperties", .bool false)])])]

/-- A label, its members in one order. -/
def labelDocument : Value :=
  .object [("size", .object [("width", .bool true), ("height", .null)]), ("text", .null)]

/-- The same label, its members in another order at both levels. -/
def labelReordered : Value :=
  .object [("text", .null), ("size", .object [("height", .null), ("width", .bool true)])]

theorem labelDocument_reordered : labelDocument.Reordered labelReordered := by
  let size : Value := .object [("width", .bool true), ("height", .null)]
  let size' : Value := .object [("height", .null), ("width", .bool true)]
  have hsize : size.Reordered size' := by
    refine .object [("width", .bool true, .bool true), ("height", .null, .null)] (.refl _)
      (.swap _ _ _) fun r hr => ?_
    simp only [List.mem_cons, List.not_mem_nil, or_false] at hr
    rcases hr with rfl | rfl
    · exact .same _
    · exact .same _
  refine .object [("size", size, size'), ("text", .null, .null)] (.refl _) (.swap _ _ _)
    fun r hr => ?_
  simp only [List.mem_cons, List.not_mem_nil, or_false] at hr
  rcases hr with rfl | rfl
  · exact hsize
  · exact .same _

theorem validate_of_reordered_label :
    labelDocument.UniqueNames ∧ labelDocument.Reordered labelReordered ∧
      (let left := ((Validator.after ⟨.empty, false⟩ []).validate labelSchema labelDocument).1
      let right := ((Validator.after ⟨.empty, false⟩ []).validate labelSchema labelReordered).1
      left ≠ right ∧ left.valid = right.valid ∧
        (left.violations.map fun e => (e.path, e.keyword)).Perm
          (right.violations.map fun e => (e.path, e.keyword)) ∧
        (left.violations.filter fun e => e.keyword ≠ "enum" ∧ e.keyword ≠ "const").Perm
          (right.violations.filter fun e => e.keyword ≠ "enum" ∧ e.keyword ≠ "const")) := by
  have hnames : labelDocument.UniqueNames := by
    refine .object (by decide) fun name v hm => ?_
    simp only [List.mem_cons, Prod.mk.injEq, List.not_mem_nil, or_false] at hm
    rcases hm with ⟨-, rfl⟩ | ⟨-, rfl⟩
    · refine .object (by decide) fun name v hm => ?_
      simp only [List.mem_cons, Prod.mk.injEq, List.not_mem_nil, or_false] at hm
      rcases hm with ⟨-, rfl⟩ | ⟨-, rfl⟩ <;> simp
    · exact .null
  refine ⟨hnames, labelDocument_reordered, by decide +kernel, ?_⟩
  exact validate_of_reordered ⟨.empty, false⟩ [] [] labelSchema hnames labelDocument_reordered

end Verdicts

end JsonSchema
