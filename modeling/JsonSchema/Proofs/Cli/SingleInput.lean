import JsonSchema.Proofs.Cli.Arguments
import JsonSchema.Proofs.Cli.Endings
import JsonSchema.Proofs.Glob.Literal

/-!
# `JsonSchema.Proofs.Cli.SingleInput` — judging one input is a batch of one

A file is judged on its own by its path, and in a batch by a pattern that is searched for, and of whose
paths those that are directories are left out. For a name without signs both come to the same input, be
there a file of this name, a directory, or nothing: what is not found, or is left out, is judged under its
name all the same, and its fault is found when it is read.

## Contents
- **Selections.** `inputs_patterns_singleton`: a name as a pattern selects what it selects as a path.
- **Runs.** `validate_is_batch`.
-/

namespace JsonSchema.Cli

/-! ## Selections -/

theorem inputOf_file {name : String} (h : name ≠ "-") : inputOf (some name) = .file name := by
  rw [inputOf]
  exact h

/-- A name selects one input, as a path and as a pattern. -/
theorem inputs_patterns_singleton (fs : FileSystem Id) {name : String} (hname : Glob.Normal name)
    (hnot : name ≠ "-") :
    Selection.inputs fs (.patterns [name]) = Selection.inputs fs (.input (some name)) := by
  show resolve fs [name] = .ok [inputOf (some name)]
  rw [resolve_normal fs hname, inputOf_file hnot]

/-! ## Runs -/

/-- **`validate` is a batch of one.** For all files, whatever their answers are, and whatever a name stands
for among them: the same arguments have the same output and the same exit code after `validate` and after
`batch`, in whatever form the report is wanted, and whether or not the run is cancelled. -/
theorem validate_is_batch (w : World) {args : List String} {name schema : String} {strict : Bool}
    {rendering : Rendering} (hname : Glob.Normal name) (hnot : name ≠ "-")
    (hargs : Command.ofArguments ("validate" :: args) =
      .ok (.validate (some name) schema strict rendering)) :
    let x := run w.around ("validate" :: args) .start
    let y := run w.around ("batch" :: args) .start
    x.1 = y.1 ∧ x.2.out = y.2.out := by
  intro x y
  have hsame : w.ended ⟨schema, .input (some name), strict⟩ 1 (rendering.options w.color) =
      w.ended ⟨schema, .patterns [name], strict⟩ 1 (rendering.options w.color) := by
    simp only [World.ended, inputs_patterns_singleton w.files hname hnot]
  obtain ⟨hcode, hout⟩ := World.run_ends (w := w) hargs rfl
  obtain ⟨hcode', hout'⟩ := World.run_ends (w := w) (ofArguments_batch hargs) rfl
  refine ⟨?_, ?_⟩
  · exact hcode.trans ((congrArg Ending.exitCode hsame).trans hcode'.symm)
  · exact hout.trans ((congrArg Ending.report hsame).trans hout'.symm)

theorem validate_is_batch_shop :
    Glob.Normal "old" ∧
      (run World.shop.around ["validate", "old", "--schema", "schema.json", "--output", "csv"] .start).1 =
        (run World.shop.around ["batch", "old", "--schema", "schema.json", "--output", "csv"] .start).1 := by
  have hname : Glob.Normal "old" := by decide +kernel
  have hargs : Command.ofArguments ["validate", "old", "--schema", "schema.json", "--output", "csv"] =
      .ok (.validate (some "old") "schema.json" false ⟨.csv, false, false⟩) := by decide +kernel
  exact ⟨hname, (validate_is_batch World.shop hname (by decide +kernel) hargs).1⟩

end JsonSchema.Cli
