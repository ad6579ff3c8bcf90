import Mathlib.Data.List.Basic
import JsonSchema.Batch.Judge

/-!
# `JsonSchema.Proofs.Cli.Related` — one program over two monads

Searching for files and judging them are written over any monad, and touch it through a few operations
only. So a relation between the computations of two monads that holds of these operations, and that
sequencing keeps, holds of the search and of the batch.

## Contents
- **Relations.** `Related`, and what it is kept by: `map`, `mapM`, `filterM`, `foldlM`.
- **States.** `Related.stateT`: the relation between computations that carry a state along.
- **Files.** `FilesAlike`: `search` and `resolve`.
- **Batches.** `RunsAlike`: `batch`; and `Related.judgeAll`.
-/

namespace JsonSchema

/-! ## Relations -/

/-- A relation between the computations of two monads that sequencing keeps. -/
structure Related (m m' : Type → Type) [Monad m] [Monad m'] where
  rel : {α : Type} → m α → m' α → Prop
  pure : ∀ {α : Type} (a : α), rel (Pure.pure a) (Pure.pure a)
  bind : ∀ {α β : Type} {x : m α} {y : m' α} {f : α → m β} {g : α → m' β},
    rel x y → (∀ a, rel (f a) (g a)) → rel (x >>= f) (y >>= g)

namespace Related

variable {m m' : Type → Type} [Monad m] [Monad m'] (R : Related m m') {α β : Type}

theorem ite {c : Bool} {x x' : m α} {y y' : m' α} (h : R.rel x y) (h' : R.rel x' y') :
    R.rel (if c = true then x else x') (if c = true then y else y') := by
  cases c with
  | false => exact h'
  | true => exact h

theorem map [LawfulMonad m] [LawfulMonad m'] {x : m α} {y : m' α} (f : α → β) (h : R.rel x y) :
    R.rel (f <$> x) (f <$> y) := by
  rw [map_eq_pure_bind, map_eq_pure_bind]
  exact R.bind h fun a => R.pure (f a)

theorem mapM [LawfulMonad m] [LawfulMonad m'] {f : α → m β} {g : α → m' β}
    (h : ∀ a, R.rel (f a) (g a)) (l : List α) : R.rel (l.mapM f) (l.mapM g) := by
  induction l with
  | nil => exact R.pure []
  | cons a rest ih =>
      rw [List.mapM_cons, List.mapM_cons]
      exact R.bind (h a) fun b => R.bind ih fun bs => R.pure (b :: bs)

theorem filterM {p : α → m Bool} {q : α → m' Bool} (h : ∀ a, R.rel (p a) (q a)) (l : List α) :
    R.rel (l.filterM p) (l.filterM q) := by
  have haux : ∀ kept, R.rel (l.filterAuxM p kept) (l.filterAuxM q kept) := by
    induction l with
    | nil => exact fun kept => R.pure kept
    | cons a rest ih => exact fun kept => R.bind (h a) fun keeps => ih _
  exact R.bind (haux []) fun kept => R.pure kept.reverse

theorem foldlM {f : β → α → m β} {g : β → α → m' β} (h : ∀ b a, R.rel (f b a) (g b a)) (l : List α)
    (b : β) : R.rel (l.foldlM f b) (l.foldlM g b) := by
  induction l generalizing b with
  | nil => exact R.pure b
  | cons a rest ih => exact R.bind (h b a) fun b => ih b

/-! ## States -/

/-- The relation between computations that carry a state along, the same on both sides. -/
def stateT (S : Type) : Related (StateT S m) (StateT S m') where
  rel x y := ∀ s, R.rel (x s) (y s)
  pure a s := R.pure (a, s)
  bind h h' s := R.bind (h s) fun (a, s) => h' a s

end Related

/-! ## Files -/

/-- Two ways to look for files that are related. A search reads none, so how they are read is left open. -/
structure FilesAlike {m m' : Type → Type} [Monad m] [Monad m'] (R : Related m m') (fs : FileSystem m)
    (fs' : FileSystem m') : Prop where
  leads : ∀ path, R.rel (fs.leads path) (fs'.leads path)
  isDirectory : ∀ path, R.rel (fs.isDirectory path) (fs'.isDirectory path)
  names : ∀ path, R.rel (fs.names path) (fs'.names path)

namespace FilesAlike

variable {m m' : Type → Type} [Monad m] [Monad m'] [LawfulMonad m] [LawfulMonad m'] {R : Related m m'}
  {fs : FileSystem m} {fs' : FileSystem m'} (h : FilesAlike R fs fs')
include h

omit [LawfulMonad m] [LawfulMonad m'] in
theorem isThere (directory name : String) :
    R.rel (Glob.isThere fs directory name) (Glob.isThere fs' directory name) := by
  simp only [Glob.isThere]
  split
  · exact h.isDirectory directory
  · exact h.leads _

omit h in
theorem gather {search : String → m (List String)} {search' : String → m' (List String)}
    (hsearch : ∀ name, R.rel (search name) (search' name)) (names : List String) :
    R.rel (Glob.gather names search) (Glob.gather names search') :=
  R.bind (R.mapM hsearch names) fun found => R.pure found.flatten

/-- **Searches are alike**, by induction on the steps that are left. -/
theorem search (limit : Nat) (parts : List Glob.Part) (path : String) :
    R.rel (Glob.search fs limit parts path) (Glob.search fs' limit parts path) := by
  induction limit generalizing parts path with
  | zero => exact R.pure []
  | succ limit ih =>
      cases parts with
      | nil => exact R.pure [path]
      | cons part parts =>
          cases part with
          | named name => exact R.bind (h.isThere path name) fun _ => R.ite (ih _ _) (R.pure [])
          | like pieces =>
              refine R.bind (h.isDirectory path) fun _ => R.ite ?_ (R.pure [])
              refine R.bind (h.names path) fun names => ?_
              refine R.bind (gather (fun name => ih _ _) _) fun below => ?_
              exact R.bind (gather (fun name => ih _ _) _) fun beside => R.pure (below ++ beside)
          | directories =>
              refine R.bind (h.isDirectory path) fun _ => R.ite ?_ (R.pure [])
              refine R.bind (h.names path) fun names => gather (fun name => ?_) names
              refine R.bind (h.isDirectory _) fun _ => ?_
              -- whether or not the search goes deeper, what it finds there is added in the same way
              refine R.ite (R.bind (ih _ _) fun deeper => ?_) (R.bind (R.pure []) fun deeper => ?_)
              all_goals
                split
                · exact R.bind (h.isDirectory _) fun _ => R.pure _
                · exact R.ite (R.bind (ih _ _) fun _ => R.pure _) (R.pure _)

theorem pathsOf (pattern : String × Glob.Pattern) :
    R.rel (JsonSchema.pathsOf fs pattern) (JsonSchema.pathsOf fs' pattern) := by
  have hmatches : R.rel (pattern.2.matches fs) (pattern.2.matches fs') := by
    refine R.bind (h.search _ _ _) fun found => ?_
    split
    · exact R.filterM h.isDirectory found
    · exact R.pure found
  refine R.bind hmatches fun found => R.bind (R.filterM (fun path => ?_) found) fun _ => R.pure _
  exact R.bind (h.isDirectory path) fun _ => R.pure _

/-- **Patterns name the same inputs in files that are alike.** -/
theorem resolve (patterns : List String) :
    R.rel (JsonSchema.resolve fs patterns) (JsonSchema.resolve fs' patterns) := by
  simp only [JsonSchema.resolve]
  split
  · exact R.pure _
  · exact R.bind (R.mapM h.pathsOf _) fun paths => R.pure _

end FilesAlike

/-! ## Batches -/

/-- Two runs whose parts are related. -/
structure RunsAlike {m m' : Type → Type} [Monad m] [Monad m'] (R : Related m m') (r : Run m)
    (r' : Run m') : Prop where
  judge : ∀ input, R.rel (r.judge input) (r'.judge input)
  report : ∀ done total, R.rel (r.report done total) (r'.report done total)
  cancelled : R.rel r.cancelled r'.cancelled

namespace RunsAlike

variable {m m' : Type → Type} [Monad m] [Monad m'] {R : Related m m'} {r : Run m} {r' : Run m'}
  (h : RunsAlike R r r')
include h

theorem conclude (outcomes : List Outcome) : R.rel (r.conclude outcomes) (r'.conclude outcomes) :=
  R.bind h.cancelled fun _ => R.ite (R.pure _) (R.pure _)

theorem judgeFrom (total done : Nat) (inputs : List InputSource) :
    R.rel (r.judgeFrom total done inputs) (r'.judgeFrom total done inputs) := by
  induction inputs generalizing done with
  | nil => exact R.pure []
  | cons input rest ih =>
      refine R.bind h.cancelled fun cancelled => R.ite (R.pure []) ?_
      refine R.bind (h.judge input) fun outcome => R.bind (h.report (done + 1) total) fun _ => ?_
      exact R.bind (ih (done + 1)) fun rest => R.pure (outcome :: rest)

theorem take (p : Pool) (turn : Turn) : R.rel (p.take r turn) (p.take r' turn) := by
  simp only [Pool.take]
  split
  · exact R.pure p
  · exact R.bind h.cancelled fun _ => R.ite (R.pure _) (R.pure _)

theorem move (total : Nat) (p : Pool) (turn : Turn) :
    R.rel (p.move r total turn) (p.move r' total turn) := by
  simp only [Pool.move]
  split
  · exact R.pure p
  · exact h.take p turn
  · exact R.bind (h.judge _) fun _ => R.pure _
  · exact R.pure _
  · exact R.bind (h.report _ total) fun _ => R.pure _

/-- **Runs that are alike judge inputs alike**, in order and in a pool. -/
theorem batch (jobs : Nat) (inputs : List InputSource) (schedule : List Turn) :
    R.rel (r.batch jobs inputs schedule) (r'.batch jobs inputs schedule) := by
  simp only [Run.batch]
  split
  · exact R.bind (h.judgeFrom inputs.length 0 inputs) fun outcomes => h.conclude outcomes
  · exact R.bind (R.foldlM (fun p turn => h.move inputs.length p turn) _ _) fun p => h.conclude p.inPlace

end RunsAlike

/-- Judging by one validator is related if the operations are by which it looks at the world. -/
theorem Related.judgeAll {m m' : Type → Type} [Monad m] [Monad m'] [LawfulMonad m] [LawfulMonad m']
    (R : Related m m') {text : InputSource → m (Except FileFault String)}
    {text' : InputSource → m' (Except FileFault String)} {report : Nat → Nat → m Unit}
    {report' : Nat → Nat → m' Unit} {cancelled : m Bool} {cancelled' : m' Bool}
    (htext : ∀ input, R.rel (text input) (text' input))
    (hreport : ∀ done total, R.rel (report done total) (report' done total))
    (hcancelled : R.rel cancelled cancelled') (policy : FormatPolicy) (schema : Value) (jobs : Nat)
    (inputs : List InputSource) (schedule : List Turn) :
    R.rel (JsonSchema.judgeAll text report cancelled policy schema jobs inputs schedule)
      (JsonSchema.judgeAll text' report' cancelled' policy schema jobs inputs schedule) := by
  -- the validator is carried along unseen, so the operations are related for each state of it
  have halike : RunsAlike (R.stateT Validator) (judging text report cancelled schema)
      (judging text' report' cancelled' schema) := {
    judge := fun input v => R.bind (htext input) fun read => R.pure _
    report := fun done total v => R.bind (hreport done total) fun _ => R.pure _
    cancelled := fun v => R.bind hcancelled fun _ => R.pure _ }
  exact R.map _ (halike.batch jobs inputs schedule _)

end JsonSchema
