import JsonSchema.Schema.Validation
import JsonSchema.Proofs.Json.UniqueNames

/-!
# `JsonSchema.Proofs.Schema.Walk` — validation as one step and a recursion over parts

The walk over a document is three mutually recursive functions that carry a trail. What every theorem
about it needs is one equation without the trail (`violations_eq`): the violations of a value are its
own, followed by those of each part under the schema that governs the part, with the step to the part
put before each path. Properties of whole verdicts follow by induction over parts.

## Contents
- **Parts.** `Part`, `Rules.parts`, `parts`: where the walk goes from a value, in order.
- **Induction.** `parts_induction`: parts are smaller than the value.
- **Findings.** `findings_eq_parts`, and `findings_under`: the trail is put before each path.
- **Violations.** `Violation.under`, `ownViolations`, `violations_eq`.
-/

namespace JsonSchema

/-! ## Parts -/

/-- A part of a value, the step that leads to it, and the schema that governs it. -/
structure Part where
  token : Token
  schema : Value
  value : Value

/-- The parts that rules look into, in document order. -/
def Rules.parts (rules : Rules) : Value → List Part
  | .object members =>
    members.filterMap fun m => (rules.memberSchema? m.1).map fun s => ⟨.key m.1, s, m.2⟩
  | .array elements =>
    match rules.elementSchema? with
    | some s => elements.zipIdx.map fun e => ⟨.index e.2, s, e.1⟩
    | none => []
  | _ => []

/-- The parts that a schema looks into. A type that does not fit leaves none. -/
def parts (schema v : Value) : List Part :=
  match openRules? schema v with
  | some rules => rules.parts v
  | none => []

/-- Where a part of an object comes from. -/
theorem mem_parts_object {rules : Rules} {members : Members} {c : Part} :
    c ∈ rules.parts (.object members) ↔
      ∃ name, (name, c.value) ∈ members ∧ c.token = .key name ∧
        rules.memberSchema? name = some c.schema := by
  simp only [Rules.parts, List.mem_filterMap, Option.map_eq_some_iff]
  constructor
  · rintro ⟨⟨name, v⟩, hm, s, hs, rfl⟩
    exact ⟨name, hm, rfl, hs⟩
  · rintro ⟨name, hm, ht, hs⟩
    refine ⟨(name, c.value), hm, c.schema, hs, ?_⟩
    rw [← ht]

/-- Where a part of an array comes from. -/
theorem mem_parts_array {rules : Rules} {elements : List Value} {c : Part} :
    c ∈ rules.parts (.array elements) ↔
      ∃ i : Nat, elements[i]? = some c.value ∧ c.token = .index i ∧
        rules.elementSchema? = some c.schema := by
  unfold Rules.parts
  cases hs : rules.elementSchema? with
  | none => simp
  | some s =>
      simp only [List.mem_map, List.mem_zipIdx_iff_getElem?, Prod.exists, Option.some.injEq]
      constructor
      · rintro ⟨v, i, hv, rfl⟩
        exact ⟨i, hv, rfl, rfl⟩
      · rintro ⟨i, hv, ht, rfl⟩
        refine ⟨c.value, i, hv, ?_⟩
        rw [← ht]

/-- The parts of a value are the parts that open rules look into. -/
theorem mem_parts {schema v : Value} {c : Part} :
    c ∈ parts schema v ↔ ∃ rules, openRules? schema v = some rules ∧ c ∈ rules.parts v := by
  unfold parts
  cases openRules? schema v with
  | none => simp
  | some rules => simp

/-- A value into which no rules look has no parts. -/
theorem parts_eq_nil {schema v : Value} (h : ∀ rules : Rules, rules.parts v = []) :
    parts schema v = [] := by
  unfold parts
  cases openRules? schema v with
  | none => rfl
  | some rules => exact h rules

/-! ## Induction -/

theorem sizeOf_lt_of_mem_parts {schema v : Value} {c : Part} (h : c ∈ parts schema v) :
    sizeOf c.value < sizeOf v := by
  obtain ⟨rules, -, hc⟩ := mem_parts.mp h
  cases v with
  | object members =>
      obtain ⟨name, hm, -, -⟩ := mem_parts_object.mp hc
      exact sizeOf_lt_of_mem_members hm
  | array elements =>
      obtain ⟨i, hi, -, -⟩ := mem_parts_array.mp hc
      exact sizeOf_lt_of_mem_elements (List.mem_of_getElem? hi)
  | _ => exact absurd hc (by simp [Rules.parts])

/-- **Induction along the walk.** What holds of a schema and a value whenever it holds of all parts,
holds of every schema and value. -/
@[elab_as_elim]
theorem parts_induction {motive : Value → Value → Prop}
    (step : ∀ schema v, (∀ c ∈ parts schema v, motive c.schema c.value) → motive schema v)
    (schema v : Value) : motive schema v := by
  -- the schema may grow from a value to its part, so the size of the value carries the induction
  induction hn : sizeOf v using Nat.strongRecOn generalizing schema v with
  | ind n ih =>
      refine step schema v fun c hc => ih (sizeOf c.value) ?_ c.schema c.value rfl
      exact hn ▸ sizeOf_lt_of_mem_parts hc

/-- Parts of a value with unique names have unique names. -/
theorem uniqueNames_of_mem_parts {schema v : Value} {c : Part} (hv : v.UniqueNames)
    (h : c ∈ parts schema v) : c.value.UniqueNames := by
  obtain ⟨rules, -, hc⟩ := mem_parts.mp h
  cases hv with
  | array each =>
      obtain ⟨i, hi, -, -⟩ := mem_parts_array.mp hc
      exact each _ (List.mem_of_getElem? hi)
  | object names each =>
      obtain ⟨name, hm, -, -⟩ := mem_parts_object.mp hc
      exact each name _ hm
  | _ => exact absurd hc (by simp [Rules.parts])

/-! ## Findings -/

section Findings

variable (policy : FormatPolicy)

theorem memberFindings_eq (rules : Rules) (trail : Trail) (members : Members) :
    memberFindings policy rules trail members =
      (rules.parts (.object members)).flatMap fun c =>
        findings policy c.schema (trail.extend c.token) c.value := by
  induction members with
  | nil => rfl
  | cons m rest ih =>
      obtain ⟨name, v⟩ := m
      rw [memberFindings, ih]
      simp only [Rules.parts, List.filterMap_cons]
      cases rules.memberSchema? name with
      | none => rfl
      | some s => rfl

theorem elementFindings_eq (items : Value) (trail : Trail) (i : Nat) (elements : List Value) :
    elementFindings policy items trail i elements =
      (elements.zipIdx i).flatMap fun e => findings policy items (trail.index e.2) e.1 := by
  induction elements generalizing i with
  | nil => rfl
  | cons v rest ih => rw [elementFindings, ih, List.zipIdx_cons, List.flatMap_cons]

/-- **The step of the walk**: what a value itself gives, then its parts in document order. -/
theorem findings_eq_parts (schema : Value) (trail : Trail) (v : Value) :
    findings policy schema trail v =
      ownFindings policy schema trail.toPath v ++
        (parts schema v).flatMap fun c =>
          findings policy c.schema (trail.extend c.token) c.value := by
  cases v with
  | object members =>
      rw [findings, parts]
      cases openRules? schema (.object members) with
      | none => rfl
      | some rules => simp only [memberFindings_eq]
  | array elements =>
      rw [findings, parts]
      cases openRules? schema (.array elements) with
      | none => rfl
      | some rules =>
          simp only [Option.bind_some, Rules.parts]
          cases rules.elementSchema? with
          | none => rfl
          | some items => simp only [elementFindings_eq, List.flatMap_map, Trail.extend]
  | null | bool flag | number n | string text =>
      rw [findings, parts_eq_nil fun _ => rfl, List.flatMap_nil, List.append_nil]
      all_goals exact fun _ h => absurd h (by simp)

end Findings

/-! ## The trail is put before each path -/

/-- A finding as it shows from further up, where a path leads to the value it was made in. -/
def Finding.under (path : Path) : Finding → Finding
  | .breach p b => .breach (path ++ p) b
  | .test p text pattern => .test (path ++ p) text pattern

/-- A violation as it shows from further up. -/
def Violation.under (path : Path) (e : Violation) : Violation := { e with path := path ++ e.path }

namespace Finding

@[simp] theorem under_under (p q : Path) (f : Finding) :
    (f.under q).under p = f.under (p ++ q) := by
  cases f <;> simp [under]

theorem settle_under (compile : String → Option Pattern) (path : Path) (f : Finding) :
    (f.under path).settle compile = (f.settle compile).map (Violation.under path) := by
  cases f with
  | breach p b => rfl
  | test p text source =>
      simp only [under, settle, judge]
      cases compile source with
      | none => rfl
      | some pattern =>
          by_cases h : pattern.found text = true
          · simp [h]
          · simp [h, Violation.under, Violation.ofBreach]

end Finding

namespace Violation

@[simp] theorem path_under (path : Path) (e : Violation) : (e.under path).path = path ++ e.path := rfl
@[simp] theorem keyword_under (path : Path) (e : Violation) :
    (e.under path).keyword = e.keyword := rfl
@[simp] theorem map_under_nil (es : List Violation) : es.map (under []) = es := List.map_id es

@[simp] theorem under_under (p q : Path) (e : Violation) :
    (e.under q).under p = e.under (p ++ q) := by
  simp [under]

end Violation

section Findings

variable (policy : FormatPolicy)

theorem kindFindings_under (rules : Rules) (path : Path) (v : Value) :
    kindFindings policy rules path v = (kindFindings policy rules [] v).map (Finding.under path) := by
  cases v <;>
    simp [kindFindings, stringFindings, Finding.under, Function.comp_def]

theorem ownFindings_under (schema : Value) (path : Path) (v : Value) :
    ownFindings policy schema path v = (ownFindings policy schema [] v).map (Finding.under path) := by
  cases schema with
  | object rules =>
      simp only [ownFindings]
      by_cases h : Rules.opens rules v = true
      · rw [if_pos h, if_pos h, kindFindings_under]
        simp [Finding.under, Function.comp_def]
      · rw [if_neg h, if_neg h]
        simp [Finding.under]
  | bool b => cases b <;> simp [ownFindings, Finding.under]
  | _ => rfl

/-- **The walk does not depend on where it stands.** A trail is put before each path, and that is all
it does. -/
theorem findings_under (schema : Value) (trail : Trail) (v : Value) :
    findings policy schema trail v =
      (findings policy schema .root v).map (Finding.under trail.toPath) := by
  -- the trail grows on the way down, so the induction is over all trails at once
  induction schema, v using parts_induction generalizing trail with
  | step schema v ih =>
      rw [findings_eq_parts, ownFindings_under, findings_eq_parts policy schema .root,
        List.map_append, List.map_flatMap, Trail.toPath_root]
      congr 1
      refine List.flatMap_congr fun c hc => ?_
      -- both sides stand under a trail, so both give way to the root
      rw [ih c hc (trail.extend c.token), ih c hc (Trail.root.extend c.token), List.map_map]
      refine List.map_congr_left fun f _ => ?_
      simp

end Findings

/-! ## Violations -/

/-- What a schema finds wrong with a value itself, its parts aside. -/
def ownViolations (policy : FormatPolicy) (schema v : Value) : List Violation :=
  (ownFindings policy schema [] v).filterMap (Finding.settle Pattern.compile?)

/-- **The violations of a value** are its own, then those of its parts in document order, each part
being judged on its own and its violations being placed under the step that leads to it. -/
theorem violations_eq (policy : FormatPolicy) (schema v : Value) :
    (validate policy schema v).violations =
      ownViolations policy schema v ++
        (parts schema v).flatMap fun c =>
          (validate policy c.schema c.value).violations.map (Violation.under [c.token]) := by
  simp only [validate, ownViolations]
  rw [findings_eq_parts, List.filterMap_append, List.filterMap_flatMap, Trail.toPath_root]
  congr 1
  refine List.flatMap_congr fun c _ => ?_
  rw [findings_under, List.filterMap_map, List.map_filterMap]
  refine List.filterMap_congr fun f _ => ?_
  rw [Function.comp_apply, Finding.settle_under, Trail.toPath_extend, Trail.toPath_root]
  rfl

end JsonSchema
