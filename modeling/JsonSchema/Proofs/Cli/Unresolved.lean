import JsonSchema.Cli.Program
import JsonSchema.Proofs.Batch.Resolution
import JsonSchema.Proofs.Cli.Related

/-!
# `JsonSchema.Proofs.Cli.Unresolved` — patterns that come to nothing

Patterns fail in two ways. A text that is no pattern makes the whole list fail, whatever the other patterns
match; of several such texts the first one is named. Patterns that are all in order fail together if there
is nothing that any of them selects, which takes that each has signs and matches nothing.

In either case a batch ends before it begins. That nothing happens is said by an equation over an arbitrary
monad: but for reading the schema, the batch does no more than return its ending.

## Contents
- **Files.** `Answers`, `resolve_of_answers`.
- **Failures.** `resolve_eq_invalidPattern_iff`, `resolve_eq_noInputs_iff`.
- **Batches.** `batch_of_error`; the main statement `resolve_failures`.
-/

namespace JsonSchema

/-! ## Files -/

/-- Looking for files answers as other files do, and does nothing else. What reading them does is open. -/
structure Answers {m : Type → Type} [Monad m] (files : FileSystem m) (fs : FileSystem Id) : Prop where
  leads : ∀ path, files.leads path = pure (fs.leads path).run
  isDirectory : ∀ path, files.isDirectory path = pure (fs.isDirectory path).run
  names : ∀ path, files.names path = pure (fs.names path).run

section Files

variable {m : Type → Type} [Monad m] [LawfulMonad m] {files : FileSystem m} {fs : FileSystem Id}

/-- A computation returns what a plain one gives, and does nothing else. -/
def returning (m : Type → Type) [Monad m] [LawfulMonad m] : Related m Id where
  rel x y := x = pure y.run
  pure _ := rfl
  bind := by
    rintro α β x y f g rfl hfg
    rw [pure_bind]
    exact hfg y.run

theorem Answers.filesAlike (h : Answers files fs) : FilesAlike (returning m) files fs where
  leads := h.leads
  isDirectory := h.isDirectory
  names := h.names

/-- Patterns come to what they come to in the files that answer. -/
theorem resolve_of_answers (h : Answers files fs) (patterns : List String) :
    resolve files patterns = pure (resolve fs patterns).run := h.filesAlike.resolve patterns

end Files

/-! ## Failures -/

section Failures

variable {fs : FileSystem Id} {patterns : List String}

/-- **The first text that is no pattern** is the one that is named. -/
theorem resolve_eq_invalidPattern_iff {text : String} {error : Glob.Error} :
    resolve fs patterns = .error (.invalidPattern text error) ↔
      ∃ before after, patterns = before ++ text :: after ∧ Readable before ∧
        Glob.Pattern.read text = .error error := by
  rw [resolve_eq_error_iff, readPatterns_eq_error_iff]
  constructor
  · rintro (⟨before, text', after, error', hsplit, hbefore, hbad, heq⟩ | ⟨-, -, heq⟩)
    · cases heq
      exact ⟨before, after, hsplit, hbefore, hbad⟩
    · cases heq
  · rintro ⟨before, after, hsplit, hbefore, hbad⟩
    exact .inl ⟨before, text, after, error, hsplit, hbefore, hbad, rfl⟩

/-- One text that is no pattern is enough. -/
theorem exists_invalidPattern_iff :
    (∃ text error, resolve fs patterns = .error (.invalidPattern text error)) ↔
      ∃ text ∈ patterns, ∃ error, Glob.Pattern.read text = .error error := by
  constructor
  · rintro ⟨text, error, herror⟩
    obtain ⟨before, after, rfl, -, hbad⟩ := resolve_eq_invalidPattern_iff.mp herror
    exact ⟨text, List.mem_append_right before List.mem_cons_self, error, hbad⟩
  · rintro ⟨text, htext, error, hbad⟩
    cases hread : readPatterns patterns with
    | ok read =>
        obtain ⟨p, hp⟩ := readable_iff.mpr ⟨read, hread⟩ text htext
        cases hbad.symm.trans hp
    | error e =>
        obtain ⟨-, first, -, error, -, -, -, rfl⟩ := readPatterns_eq_error_iff.mp hread
        exact ⟨first, error, resolve_of_error fs hread⟩

/-- A pattern selects something if it has no signs or matches something. -/
theorem exists_selects_iff {text : String} :
    (∃ path, Selects fs text path) ↔ Literal text ∨ ∃ path, Matches fs text path := by
  constructor
  · rintro ⟨path, hmatch | ⟨-, hliteral, -⟩⟩
    · exact .inr ⟨path, hmatch⟩
    · exact .inl hliteral
  · rintro (hliteral | ⟨path, hmatch⟩)
    · exact hliteral.selects fs
    · exact ⟨path, .inl hmatch⟩

/-- **There are no inputs** if all patterns are in order, have signs and match nothing. -/
theorem resolve_eq_noInputs_iff {given : List String} :
    resolve fs patterns = .error (.noInputs given) ↔ given = patterns ∧ Readable patterns ∧
      ∀ text ∈ patterns, ¬Literal text ∧ ∀ path, ¬Matches fs text path := by
  rw [resolve_eq_error_iff, readPatterns_eq_error_iff]
  simp only [← not_exists, exists_selects_iff, not_or]
  constructor
  · rintro (⟨_, _, _, _, -, -, -, heq⟩ | ⟨hreadable, hnone, heq⟩)
    · cases heq
    · cases heq
      exact ⟨rfl, hreadable, hnone⟩
  · rintro ⟨rfl, hreadable, hnone⟩
    exact .inr ⟨hreadable, hnone, rfl⟩

/-- Patterns come to inputs if they are in order and one of them selects something. -/
theorem exists_resolve_iff :
    (∃ inputs, inputs ≠ [] ∧ resolve fs patterns = .ok inputs) ↔
      Readable patterns ∧ ∃ text ∈ patterns, Literal text ∨ ∃ path, Matches fs text path := by
  simp only [← exists_selects_iff]
  constructor
  · rintro ⟨inputs, hsome, hok⟩
    obtain ⟨hreadable, paths, hpaths, hlists, -⟩ := resolve_eq_ok_iff.mp hok
    obtain ⟨path, hpath⟩ := List.exists_mem_of_ne_nil paths hpaths
    obtain ⟨text, htext, hselects⟩ := (hlists.members path).mp hpath
    exact ⟨hreadable, text, htext, path, hselects⟩
  · rintro ⟨hreadable, text, htext, path, hselects⟩
    obtain ⟨inputs, hok, hmem⟩ := mem_resolved_iff.mp
      ((mem_resolved hreadable).mpr ⟨text, htext, path, hselects, rfl⟩)
    exact ⟨inputs, List.ne_nil_of_mem hmem, hok⟩

end Failures

/-! ## Batches -/

/-- **A batch whose patterns fail** reads the schema and ends. -/
theorem batch_of_error {m : Type → Type} [Monad m] [LawfulMonad m] {around : Cli.Surroundings m}
    {fs : FileSystem Id} (hanswers : Answers around.files fs) {patterns : List String} {e : BatchError}
    (h : resolve fs patterns = .error e) (schema : String) (strict progress : Bool) (jobs : Nat)
    (rendering : Cli.Rendering) :
    around.batch patterns schema strict progress jobs rendering = do
      match ← loadSchema around.files schema with
      | .error fault => return .ofSchemaError fault
      | .ok _ => return .ofBatch (rendering.options around.color) (.error e) := by
  unfold Cli.Surroundings.batch
  refine bind_congr fun loaded => ?_
  cases loaded with
  | error fault => rfl
  | ok schema =>
      have hresolve : resolve around.files patterns = pure (.error e) :=
        (resolve_of_answers hanswers patterns).trans (congrArg pure h)
      simp only [hresolve, pure_bind]

/-- **How patterns fail.** They fail as no patterns exactly if one of them is none, and the first such one
is named. They fail for lack of inputs exactly if all are in order, have signs and match nothing, and all of
them are named. In every other case there is an input. When they fail, a batch reads the schema and ends:
no document is read, nothing is told of progress, and nobody is asked whether to stop. -/
theorem resolve_failures (fs : FileSystem Id) (patterns : List String) :
    ((∃ text error, resolve fs patterns = .error (.invalidPattern text error)) ↔
      ∃ text ∈ patterns, ∃ error, Glob.Pattern.read text = .error error) ∧
    (∀ text error, resolve fs patterns = .error (.invalidPattern text error) ↔
      ∃ before after, patterns = before ++ text :: after ∧ Readable before ∧
        Glob.Pattern.read text = .error error) ∧
    (∀ given, resolve fs patterns = .error (.noInputs given) ↔ given = patterns ∧ Readable patterns ∧
      ∀ text ∈ patterns, ¬Literal text ∧ ∀ path, ¬Matches fs text path) ∧
    ((∃ inputs, inputs ≠ [] ∧ resolve fs patterns = .ok inputs) ↔
      Readable patterns ∧ ∃ text ∈ patterns, Literal text ∨ ∃ path, Matches fs text path) ∧
    ∀ e, resolve fs patterns = .error e →
      ∀ (m : Type → Type) [Monad m] [LawfulMonad m] (around : Cli.Surroundings m), Answers around.files fs →
        ∀ (schema : String) (strict progress : Bool) (jobs : Nat) (rendering : Cli.Rendering),
          around.batch patterns schema strict progress jobs rendering = do
            match ← loadSchema around.files schema with
            | .error fault => return .ofSchemaError fault
            | .ok _ => return .ofBatch (rendering.options around.color) (.error e) := by
  exact ⟨exists_invalidPattern_iff, fun text error => resolve_eq_invalidPattern_iff,
    fun given => resolve_eq_noInputs_iff, exists_resolve_iff,
    fun e herror m _ _ around hanswers => batch_of_error hanswers herror⟩

/-- The desk as a program sees it, when everything but looking for files leaves a note. -/
def watchedDesk : Cli.Surroundings (StateM (List String)) where
  files := {
    read := fun path => do
      modify (· ++ ["read " ++ path])
      return .ok "\x7b\x7d"
    leads := fun path => pure (deskFiles.leads path).run
    isDirectory := fun path => pure (deskFiles.isDirectory path).run
    names := fun path => pure (deskFiles.names path).run }
  standardInput := do
    modify (· ++ ["standard input"])
    return .ok ""
  write text := modify (· ++ ["write " ++ text])
  complain text := modify (· ++ ["complain " ++ text])
  color := false
  cancelled := do
    modify (· ++ ["cancelled?"])
    return false

/-- On the desk nothing has the ending that is asked for, so that the schema is all that is read. -/
theorem resolve_failures_desk :
    resolve deskFiles ["*.yaml"] = .error (.noInputs ["*.yaml"]) ∧
      ((watchedDesk.batch ["*.yaml"] "schema.json" false true 2 ⟨.text, false, false⟩).run []).run =
        (Cli.Ending.failed "no input files matched: *.yaml", ["read schema.json"]) := by
  have hread : readPatterns ["*.yaml"] =
      .ok [("*.yaml", ⟨false, [.like (.anyMany :: ".yaml".toList.map .exactly)], false⟩)] := by
    decide +kernel
  have herror : resolve deskFiles ["*.yaml"] = .error (.noInputs ["*.yaml"]) := by
    rw [resolve_of_read deskFiles hread]
    exact inputsOf_eq_error_iff.mpr ⟨by decide +kernel, rfl⟩
  have hanswers : Answers watchedDesk.files deskFiles := ⟨fun _ => rfl, fun _ => rfl, fun _ => rfl⟩
  refine ⟨herror, ?_⟩
  rw [(resolve_failures deskFiles ["*.yaml"]).2.2.2.2 _ herror _ watchedDesk hanswers]
  decide +kernel

end JsonSchema
