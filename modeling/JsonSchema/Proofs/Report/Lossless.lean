import Mathlib.Data.List.Forall2
import JsonSchema.Proofs.Json.Pointer
import JsonSchema.Proofs.Json.ReadBack
import JsonSchema.Report.Json

/-!
# `JsonSchema.Proofs.Report.Lossless` — the report for programs holds all that there is to report

Names of files, keywords, messages and reasons are texts of any kind: they may hold quotes, line breaks
and control characters. Whatever they hold, a program that reads the report as JSON finds every one of
them again, as it was.

## Contents
- **Contents of a report.** `TellsViolation`, `TellsVerdict`, `Tells`: what an object of the report says of
  an outcome.
- **Losslessness.** `json_lossless`.
-/

namespace JsonSchema.Report

/-! ## Contents of a report -/

/-- What is found in a value under the name of a member. -/
abbrev found (v : Value) (name : String) : Option Value := v.child? (.key name)

/-- An object says all that there is to say of a violation. The tokens of its place can be read from the
pointer. -/
structure TellsViolation (v : Violation) (entry : Value) : Prop where
  keyword : found entry "keyword" = some (.string v.keyword)
  path : found entry "path" = some (.string v.path.pointer)
  tokens : Pointer.tokens? v.path.pointer = some (v.path.map Token.text)
  message : found entry "message" = some (.string v.message)

/-- Entries say all that there is to say of a verdict: there is one for each violation, in order. Where there
is no verdict there are no entries. -/
def TellsVerdict : Option Verdict → List Value → Prop
  | some verdict, entries => List.Forall₂ TellsViolation verdict.violations entries
  | none, entries => entries = []

/-- An object says all that there is to say of an outcome: whether it is clean, what its verdict is, and the
reason if there is none. -/
structure Tells (o : Outcome) (file : Value) : Prop where
  filename : found file "filename" = some (.string o.filename)
  valid : ∃ flag, found file "valid" = some (.bool flag) ∧ (flag = true ↔ o.Clean)
  errors : ∃ entries, found file "errors" = some (.array entries) ∧ TellsVerdict o.verdict entries
  parseError : found file "parseError" = o.problem.map .string

theorem tellsViolation_violationValue (v : Violation) : TellsViolation v (violationValue v) :=
  ⟨rfl, rfl, Pointer.tokens?_pointer v.path, rfl⟩

theorem tellsVerdict_outcome (o : Outcome) : TellsVerdict o.verdict (o.violations.map violationValue) := by
  unfold Outcome.violations
  cases o.verdict with
  | none => rfl
  | some verdict =>
      refine List.forall₂_map_right_iff.mpr (List.forall₂_same.mpr fun v _ => ?_)
      exact tellsViolation_violationValue v

theorem tells_outcomeValue (o : Outcome) : Tells o (outcomeValue o) where
  filename := rfl
  valid := ⟨o.succeeded, rfl, Outcome.succeeded_iff⟩
  errors := ⟨_, rfl, tellsVerdict_outcome o⟩
  parseError := by cases h : o.problem <;> simp [found, outcomeValue, h, Value.child?]

/-! ## Values in a report -/

section Members

variable {P : Value → Prop} (htext : ∀ text, P (.string text))
include htext

theorem forall_violation_members {v : Violation} {members : Members}
    (h : violationValue v = .object members) : ∀ m ∈ members, P m.2 := by
  cases h
  intro m hm
  simp only [List.mem_cons, List.not_mem_nil, or_false] at hm
  rcases hm with rfl | rfl | rfl <;> exact htext _

theorem forall_outcome_members (hflag : ∀ flag, P (.bool flag)) {o : Outcome}
    (hentries : P (.array (o.violations.map violationValue))) {members : Members}
    (h : outcomeValue o = .object members) : ∀ m ∈ members, P m.2 := by
  cases h
  intro m hm
  rcases List.mem_append.mp hm with hfirst | hlast
  · simp only [List.mem_cons, List.not_mem_nil, or_false] at hfirst
    rcases hfirst with rfl | rfl | rfl
    · exact htext _
    · exact hflag _
    · exact hentries
  · obtain ⟨reason, -, rfl⟩ := List.mem_map.mp hlast
    exact htext reason

end Members

/-- What holds of the values for all things holds of the values in a list of them. -/
theorem forall_mem_map {α : Type} {P : Value → Prop} {f : α → Value} (h : ∀ a, P (f a)) (l : List α) :
    ∀ e ∈ l.map f, P e := by
  intro e he
  obtain ⟨a, -, rfl⟩ := List.mem_map.mp he
  exact h a

theorem worded_violationValue (depth : Nat) (v : Violation) : (violationValue v).Worded (depth + 1) :=
  .object (forall_violation_members .string rfl)

theorem worded_outcomeValue (depth : Nat) (o : Outcome) : (outcomeValue o).Worded (depth + 3) :=
  .object <| forall_outcome_members .string .bool
    (.array (forall_mem_map (worded_violationValue depth) o.violations)) rfl

theorem uniqueNames_violationValue (v : Violation) : (violationValue v).UniqueNames := by
  have hnames : ["keyword", "path", "message"].Nodup := by decide
  exact .object hnames fun _ _ hm => forall_violation_members .string rfl _ hm

theorem uniqueNames_outcomeValue (o : Outcome) : (outcomeValue o).UniqueNames := by
  refine .object ?_ fun _ _ hm => forall_outcome_members .string .bool
    (.array (forall_mem_map uniqueNames_violationValue o.violations)) rfl _ hm
  cases o.problem with
  | none =>
      show ["filename", "valid", "errors"].Nodup
      decide
  | some reason =>
      show ["filename", "valid", "errors", "parseError"].Nodup
      decide

/-! ## Losslessness -/

/-- The array that a report is. -/
abbrev filesValue (outcomes : List Outcome) : Value := .array (outcomes.map outcomeValue)

theorem worded_filesValue (outcomes : List Outcome) : (filesValue outcomes).Worded Json.maxDepth := by
  have heach : ∀ file ∈ outcomes.map outcomeValue, file.Worded 126 :=
    forall_mem_map (worded_outcomeValue 123) outcomes
  exact .array heach

theorem json_eq (outcomes : List Outcome) :
    json outcomes = String.ofList ((filesValue outcomes).prettyChars 0 ++ ['\n']) :=
  String.ofList_append.symm

/-- **The report is read as the array that it is.** -/
theorem read_json (outcomes : List Outcome) : Json.read (json outcomes) = .ok (filesValue outcomes) := by
  have hworded := worded_filesValue outcomes
  have hunique : (filesValue outcomes).UniqueNames :=
    .array (forall_mem_map uniqueNames_outcomeValue outcomes)
  rw [json_eq]
  exact Json.read_of_laid (Value.laid_pretty hworded 0) hworded hunique

/-- **The report loses nothing.** Whatever texts the outcomes hold, the report is laid out over lines with
two spaces for each level, and only quotes, backslashes and characters below U+0020 are escaped in it. It
is read as an array that has one object for each outcome, in order, which says of the outcome all that
there is to say. -/
theorem json_lossless (outcomes : List Outcome) :
    ∃ files laid, json outcomes = String.ofList (laid ++ ['\n']) ∧ Json.Laid 0 (.array files) laid ∧
      Json.read (json outcomes) = .ok (.array files) ∧ List.Forall₂ Tells outcomes files := by
  refine ⟨outcomes.map outcomeValue, _, json_eq outcomes, Value.laid_pretty (worded_filesValue outcomes) 0,
    read_json outcomes, ?_⟩
  exact List.forall₂_map_right_iff.mpr (List.forall₂_same.mpr fun o _ => tells_outcomeValue o)

end JsonSchema.Report
