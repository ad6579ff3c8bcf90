import Mathlib.Data.List.Sort
import JsonSchema.Proofs.Glob.Literal

/-!
# `JsonSchema.Proofs.Batch.Resolution` — the inputs are a sorted union over the patterns

Patterns are read one after the other, each is searched for by itself, and what they come to is sorted and
rid of repetitions at the end. So the inputs depend on the set of patterns alone: a list that rises in the
order of texts is determined by its members. How often a pattern is written, and where, is not seen.

## Contents
- **Rising texts.** `mem_union`, `pairwise_union`; `union_eq`: a rising list is determined by its members.
- **Patterns.** `Readable`; what a pattern `Matches` and what it `Selects`.
- **Reading.** `readPatterns_eq_ok_iff`, `readPatterns_eq_error_iff`.
- **Searching.** `mem_pathsOf`; `resolve_of_readable`.
- **Inputs.** `Lists`, `resolve_eq_ok_iff`; `resolved`, `mem_resolved`; the main statement
  `resolve_sorted_union`.
-/

namespace JsonSchema

/-! ## Rising texts -/

/-- What has been kept so far stands in reverse, and nothing changes it any more. -/
theorem eraseRepsBy_loop (a : String) (rest done : List String) :
    List.eraseRepsBy.loop (· == ·) a rest done = done.reverse ++ List.eraseRepsBy.loop (· == ·) a rest [] := by
  induction rest generalizing a done with
  | nil => simp [List.eraseRepsBy.loop]
  | cons b rest ih =>
      rw [List.eraseRepsBy.loop, List.eraseRepsBy.loop]
      split
      · exact ih a done
      · rw [ih b (a :: done), ih b [a], List.reverse_cons, List.append_assoc]
        rfl

theorem eraseReps_cons_cons (a b : String) (rest : List String) :
    (a :: b :: rest).eraseReps = if a = b then (b :: rest).eraseReps else a :: (b :: rest).eraseReps := by
  show List.eraseRepsBy.loop (· == ·) a (b :: rest) [] = _
  by_cases hab : a = b
  · subst hab
    rw [List.eraseRepsBy.loop, beq_self_eq_true, if_pos rfl]
    rfl
  · rw [List.eraseRepsBy.loop, beq_false_of_ne hab, if_neg hab]
    exact eraseRepsBy_loop b rest [a]

theorem mem_eraseReps {x : String} {texts : List String} : x ∈ texts.eraseReps ↔ x ∈ texts := by
  induction texts with
  | nil => rfl
  | cons a rest ih =>
      cases rest with
      | nil => rfl
      | cons b rest =>
          rw [eraseReps_cons_cons]
          split
          · next hab => rw [ih, hab, List.mem_cons (l := b :: rest)]; simp
          · rw [List.mem_cons, ih, ← List.mem_cons]

/-- Texts in order rise once repetitions are gone. -/
theorem pairwise_eraseReps {texts : List String} (h : texts.Pairwise (· ≤ ·)) :
    texts.eraseReps.Pairwise (· < ·) := by
  induction texts with
  | nil => exact .nil
  | cons a rest ih =>
      obtain ⟨hfirst, hrest⟩ := List.pairwise_cons.mp h
      cases rest with
      | nil => exact List.pairwise_singleton _ _
      | cons b rest =>
          rw [eraseReps_cons_cons]
          split
          · exact ih hrest
          · next hab =>
            refine List.pairwise_cons.mpr ⟨fun x hx => ?_, ih hrest⟩
            have hlt : a < b := String.not_le.mp fun hba =>
              hab (String.le_antisymm (hfirst b List.mem_cons_self) hba)
            rcases List.mem_cons.mp (mem_eraseReps.mp hx) with rfl | hmem
            · exact hlt
            · have hle : b ≤ x := (List.pairwise_cons.mp hrest).1 x hmem
              exact String.not_le.mp fun hxa => String.not_le.mpr hlt (String.le_trans hle hxa)

theorem mem_union {x : String} {texts : List String} : x ∈ union texts ↔ x ∈ texts := by
  rw [union, mem_eraseReps, List.mem_mergeSort]

theorem pairwise_union (texts : List String) : (union texts).Pairwise (· < ·) := by
  have htrans : ∀ a b c : String, decide (a ≤ b) = true → decide (b ≤ c) = true → decide (a ≤ c) = true :=
    fun a b c hab hbc => decide_eq_true (String.le_trans (of_decide_eq_true hab) (of_decide_eq_true hbc))
  have htotal : ∀ a b : String, (decide (a ≤ b) || decide (b ≤ a)) = true := by
    intro a b
    rw [Bool.or_eq_true, decide_eq_true_iff, decide_eq_true_iff]
    exact String.le_total a b
  exact pairwise_eraseReps ((List.pairwise_mergeSort htrans htotal texts).imp of_decide_eq_true)

/-- A rising list is determined by its members. -/
theorem union_eq {texts paths : List String} (hrising : paths.Pairwise (· < ·))
    (hmembers : ∀ path, path ∈ texts ↔ path ∈ paths) : union texts = paths :=
  (pairwise_union texts).eq_of_mem_iff hrising fun path => mem_union.trans (hmembers path)

theorem union_eq_nil_iff {texts : List String} : union texts = [] ↔ texts = [] := by
  simp only [List.eq_nil_iff_forall_not_mem, mem_union]

/-! ## Patterns -/

/-- Every text is a pattern. -/
def Readable (patterns : List String) : Prop := ∀ text ∈ patterns, ∃ p, Glob.Pattern.read text = .ok p

/-- A pattern matches a path, and this is no directory. -/
def Matches (fs : FileSystem Id) (text path : String) : Prop :=
  ∃ p, Glob.Pattern.read text = .ok p ∧ path ∈ (p.matches fs).run ∧ (fs.isDirectory path).run = false

/-- A pattern selects what it matches. One without signs that matches nothing selects its own text. -/
def Selects (fs : FileSystem Id) (text path : String) : Prop :=
  Matches fs text path ∨ path = text ∧ Literal text ∧ ∀ other, ¬Matches fs text other

/-! ## Reading -/

theorem readPatterns_cons (text : String) (rest : List String) :
    readPatterns (text :: rest) =
      match Glob.Pattern.read text with
      | .error e => .error (.invalidPattern text e)
      | .ok p => (readPatterns rest).map ((text, p) :: ·) := by
  rw [readPatterns, List.mapM_cons]
  cases Glob.Pattern.read text with
  | error e => rfl
  | ok p =>
      show (readPatterns rest >>= fun read => pure ((text, p) :: read)) = _
      cases readPatterns rest <;> rfl

/-- Texts are read to a pattern each. -/
theorem readPatterns_eq_ok_iff {patterns : List String} {read : List (String × Glob.Pattern)} :
    readPatterns patterns = .ok read ↔
      read.map Prod.fst = patterns ∧ ∀ q ∈ read, Glob.Pattern.read q.1 = .ok q.2 := by
  induction patterns generalizing read with
  | nil =>
      refine ⟨fun h => ?_, fun h => ?_⟩
      · cases h
        exact ⟨rfl, fun q hq => absurd hq List.not_mem_nil⟩
      · rw [List.map_eq_nil_iff.mp h.1]
        rfl
  | cons text rest ih =>
      rw [readPatterns_cons]
      constructor
      · intro h
        cases hread : Glob.Pattern.read text with
        | error e => rw [hread] at h; cases h
        | ok p =>
            rw [hread] at h
            cases hrest : readPatterns rest with
            | error e => rw [hrest] at h; cases h
            | ok tail =>
                rw [hrest] at h
                cases h
                obtain ⟨hnames, heach⟩ := ih.mp hrest
                exact ⟨congrArg (text :: ·) hnames, List.forall_mem_cons.mpr ⟨hread, heach⟩⟩
      · rintro ⟨hnames, heach⟩
        obtain ⟨⟨name, p⟩, tail, rfl, rfl, htail⟩ := List.map_eq_cons_iff.mp hnames
        obtain ⟨hread, heach⟩ := List.forall_mem_cons.mp heach
        rw [hread, ih.mpr ⟨htail, heach⟩]
        rfl

/-- **The first text that is no pattern** is the error, whatever comes after it. -/
theorem readPatterns_eq_error_iff {patterns : List String} {e : BatchError} :
    readPatterns patterns = .error e ↔
      ∃ before text after error, patterns = before ++ text :: after ∧ Readable before ∧
        Glob.Pattern.read text = .error error ∧ e = .invalidPattern text error := by
  induction patterns with
  | nil => simp [readPatterns, pure, Except.pure]
  | cons text rest ih =>
      rw [readPatterns_cons]
      constructor
      · intro h
        cases hread : Glob.Pattern.read text with
        | error error =>
            rw [hread] at h
            cases h
            exact ⟨[], text, rest, error, rfl, fun _ h => absurd h List.not_mem_nil, hread, rfl⟩
        | ok p =>
            rw [hread] at h
            cases hrest : readPatterns rest with
            | ok tail => rw [hrest] at h; cases h
            | error e' =>
                rw [hrest] at h
                cases h
                obtain ⟨before, bad, after, error, rfl, hbefore, hbad, rfl⟩ := ih.mp hrest
                exact ⟨text :: before, bad, after, error, rfl,
                  List.forall_mem_cons.mpr ⟨⟨p, hread⟩, hbefore⟩, hbad, rfl⟩
      · rintro ⟨before, bad, after, error, hsplit, hbefore, hbad, rfl⟩
        cases before with
        | nil =>
            obtain ⟨rfl, rfl⟩ := List.cons.inj hsplit
            rw [hbad]
        | cons first before =>
            obtain ⟨rfl, rfl⟩ := List.cons.inj hsplit
            obtain ⟨⟨p, hread⟩, hbefore⟩ := List.forall_mem_cons.mp hbefore
            rw [hread, ih.mpr ⟨before, bad, after, error, rfl, hbefore, hbad, rfl⟩]
            rfl

theorem readable_iff {patterns : List String} :
    Readable patterns ↔ ∃ read, readPatterns patterns = .ok read := by
  constructor
  · intro h
    cases hread : readPatterns patterns with
    | ok read => exact ⟨read, rfl⟩
    | error e =>
        obtain ⟨before, text, after, error, rfl, -, hbad, -⟩ := readPatterns_eq_error_iff.mp hread
        obtain ⟨p, hp⟩ := h text (List.mem_append_right before List.mem_cons_self)
        rw [hbad] at hp
        cases hp
  · rintro ⟨read, hread⟩ text htext
    obtain ⟨rfl, heach⟩ := readPatterns_eq_ok_iff.mp hread
    obtain ⟨q, hq, rfl⟩ := List.mem_map.mp htext
    exact ⟨q.2, heach q hq⟩

/-! ## Searching -/

theorem mem_filterAuxM {x : String} {keeps : String → Id Bool} {texts kept : List String} :
    x ∈ (texts.filterAuxM keeps kept).run ↔ x ∈ texts ∧ (keeps x).run = true ∨ x ∈ kept := by
  induction texts generalizing kept with
  | nil => simp [List.filterAuxM]
  | cons a rest ih =>
      have hstep : (List.filterAuxM keeps (a :: rest) kept).run =
          (rest.filterAuxM keeps (cond (keeps a).run (a :: kept) kept)).run := rfl
      rw [hstep, ih, List.mem_cons]
      cases hkeeps : (keeps a).run with
      | true =>
          rw [cond_true, List.mem_cons]
          by_cases hxa : x = a
          · simp [hxa, hkeeps]
          · simp [hxa]
      | false =>
          rw [cond_false]
          by_cases hxa : x = a
          · simp [hxa, hkeeps]
          · simp [hxa]

theorem mem_filterM {x : String} {keeps : String → Id Bool} {texts : List String} :
    x ∈ (texts.filterM keeps).run ↔ x ∈ texts ∧ (keeps x).run = true := by
  have hstep : (texts.filterM keeps).run = (texts.filterAuxM keeps []).run.reverse := rfl
  rw [hstep, List.mem_reverse, mem_filterAuxM]
  simp

theorem mem_pathsFor {text path : String} {found : List String} :
    path ∈ pathsFor text found ↔ path ∈ found ∨ path = text ∧ Literal text ∧ ∀ other, other ∉ found := by
  unfold pathsFor
  by_cases hstands : found.isEmpty = true ∧ isLiteral text = true
  · obtain ⟨hempty, hliteral⟩ := hstands
    rw [hempty, hliteral, List.isEmpty_iff.mp hempty]
    simp [isLiteral_iff.mp hliteral]
  · rw [if_neg (by rwa [Bool.and_eq_true])]
    refine ⟨.inl, fun h => h.resolve_right fun ⟨_, hliteral, hnone⟩ => hstands ?_⟩
    have hempty : found = [] := List.eq_nil_iff_forall_not_mem.mpr hnone
    exact ⟨List.isEmpty_iff.mpr hempty, isLiteral_iff.mpr hliteral⟩

/-- The paths for a pattern are those that it selects. -/
theorem mem_pathsOf {fs : FileSystem Id} {text path : String} {p : Glob.Pattern}
    (hread : Glob.Pattern.read text = .ok p) :
    path ∈ (pathsOf fs (text, p)).run ↔ Selects fs text path := by
  have hfound : ∀ other, other ∈ ((p.matches fs).run.filterM (m := Id) fun path =>
      return !(← fs.isDirectory path)).run ↔ Matches fs text other := by
    intro other
    rw [mem_filterM, Matches, hread]
    simp
  rw [Selects, ← hfound]
  simp only [← hfound]
  exact mem_pathsFor

theorem resolve_of_error (fs : FileSystem Id) {patterns : List String} {e : BatchError}
    (h : readPatterns patterns = .error e) : resolve fs patterns = .error e := by
  rw [resolve, h]
  rfl

theorem resolve_of_read (fs : FileSystem Id) {patterns : List String} {read : List (String × Glob.Pattern)}
    (h : readPatterns patterns = .ok read) :
    resolve fs patterns = inputsOf patterns (read.mapM (pathsOf fs)).run.flatten := by
  rw [resolve, h]
  rfl

/-- Patterns that are all in order come to what any of them selects. -/
theorem resolve_of_readable (fs : FileSystem Id) {patterns : List String} (h : Readable patterns) :
    ∃ paths, resolve fs patterns = inputsOf patterns paths ∧
      ∀ path, path ∈ paths ↔ ∃ text ∈ patterns, Selects fs text path := by
  obtain ⟨read, hread⟩ := readable_iff.mp h
  obtain ⟨rfl, heach⟩ := readPatterns_eq_ok_iff.mp hread
  refine ⟨(read.mapM (pathsOf fs)).run.flatten, resolve_of_read fs hread, fun path => ?_⟩
  simp only [List.idRun_mapM, List.mem_flatten, List.mem_map, exists_exists_and_eq_and]
  exact exists_congr fun q => and_congr_right fun hq => mem_pathsOf (heach q hq)

/-! ## Inputs -/

theorem inputsOf_eq_ok_iff {patterns paths : List String} {inputs : List InputSource} :
    inputsOf patterns paths = .ok inputs ↔ paths ≠ [] ∧ inputs = (union paths).map .file := by
  unfold inputsOf
  rw [ne_eq, ← union_eq_nil_iff]
  cases union paths with
  | nil => simp
  | cons path rest => simp [eq_comm]

theorem inputsOf_eq_error_iff {patterns paths : List String} {e : BatchError} :
    inputsOf patterns paths = .error e ↔ paths = [] ∧ e = .noInputs patterns := by
  unfold inputsOf
  rw [← union_eq_nil_iff]
  cases union paths with
  | nil => simp [eq_comm]
  | cons path rest => simp

/-- Paths rise in the order of texts, and are those that patterns select. -/
structure Lists (fs : FileSystem Id) (patterns paths : List String) : Prop where
  rising : paths.Pairwise (· < ·)
  members : ∀ path, path ∈ paths ↔ ∃ text ∈ patterns, Selects fs text path

/-- The set of patterns counts, not the list. -/
theorem lists_congr {fs : FileSystem Id} {patterns others paths : List String}
    (h : ∀ text, text ∈ others ↔ text ∈ patterns) : Lists fs others paths ↔ Lists fs patterns paths := by
  have hmembers : ∀ path, (∃ text ∈ others, Selects fs text path) ↔ ∃ text ∈ patterns, Selects fs text path :=
    fun path => exists_congr fun text => and_congr_left fun _ => h text
  exact ⟨fun hlists => ⟨hlists.rising, fun path => (hlists.members path).trans (hmembers path)⟩,
    fun hlists => ⟨hlists.rising, fun path => (hlists.members path).trans (hmembers path).symm⟩⟩

/-- **What patterns come to**: the paths that they select in rising order, if there are any. -/
theorem resolve_eq_ok_iff {fs : FileSystem Id} {patterns : List String} {inputs : List InputSource} :
    resolve fs patterns = .ok inputs ↔
      Readable patterns ∧ ∃ paths, paths ≠ [] ∧ Lists fs patterns paths ∧ inputs = paths.map .file := by
  constructor
  · intro h
    have hreadable : Readable patterns := by
      cases hread : readPatterns patterns with
      | ok read => exact readable_iff.mpr ⟨read, hread⟩
      | error e => cases (resolve_of_error fs hread).symm.trans h
    obtain ⟨paths, hresolve, hmembers⟩ := resolve_of_readable fs hreadable
    obtain ⟨hsome, rfl⟩ := inputsOf_eq_ok_iff.mp (hresolve.symm.trans h)
    refine ⟨hreadable, union paths, mt union_eq_nil_iff.mp hsome, ⟨pairwise_union paths, ?_⟩, rfl⟩
    exact fun path => mem_union.trans (hmembers path)
  · rintro ⟨hreadable, paths, hsome, hlists, rfl⟩
    obtain ⟨found, hresolve, hmembers⟩ := resolve_of_readable fs hreadable
    have heq : union found = paths :=
      union_eq hlists.rising fun path => (hmembers path).trans (hlists.members path).symm
    rw [hresolve, inputsOf_eq_ok_iff, heq]
    exact ⟨fun hnone => hsome (heq ▸ union_eq_nil_iff.mpr hnone), rfl⟩

/-- **Why patterns come to nothing**: one of them is none, or no path is selected by any. -/
theorem resolve_eq_error_iff {fs : FileSystem Id} {patterns : List String} {e : BatchError} :
    resolve fs patterns = .error e ↔ readPatterns patterns = .error e ∨
      Readable patterns ∧ (∀ text ∈ patterns, ∀ path, ¬Selects fs text path) ∧ e = .noInputs patterns := by
  cases hread : readPatterns patterns with
  | error e' =>
      have hnot : ¬Readable patterns := by
        intro h
        obtain ⟨read, hok⟩ := readable_iff.mp h
        cases hok.symm.trans hread
      rw [resolve_of_error fs hread, or_iff_left fun h => hnot h.1]
      constructor <;> (intro h; cases h; rfl)
  | ok read =>
      have hreadable : Readable patterns := readable_iff.mpr ⟨read, hread⟩
      obtain ⟨paths, hresolve, hmembers⟩ := resolve_of_readable fs hreadable
      have hnone : paths = [] ↔ ∀ text ∈ patterns, ∀ path, ¬Selects fs text path := by
        simp only [List.eq_nil_iff_forall_not_mem, hmembers, not_exists, not_and]
        exact ⟨fun h text htext path => h path text htext, fun h path text htext => h text htext path⟩
      rw [hresolve, inputsOf_eq_error_iff, hnone]
      simp [hreadable]

/-- The inputs that patterns come to, and none where they fail. -/
def resolved (fs : FileSystem Id) (patterns : List String) : List InputSource :=
  match (resolve fs patterns).run with
  | .ok inputs => inputs
  | .error _ => []

theorem mem_resolved_iff {fs : FileSystem Id} {patterns : List String} {input : InputSource} :
    input ∈ resolved fs patterns ↔ ∃ inputs, resolve fs patterns = .ok inputs ∧ input ∈ inputs := by
  unfold resolved
  cases hresolve : (resolve fs patterns).run with
  | ok inputs =>
      refine ⟨fun h => ⟨inputs, hresolve, h⟩, fun ⟨inputs', hok, h⟩ => ?_⟩
      cases hresolve.symm.trans hok
      exact h
  | error e =>
      refine iff_of_false List.not_mem_nil fun ⟨inputs, hok, _⟩ => ?_
      cases hresolve.symm.trans hok

theorem mem_resolved {fs : FileSystem Id} {patterns : List String} (h : Readable patterns)
    {input : InputSource} :
    input ∈ resolved fs patterns ↔ ∃ text ∈ patterns, ∃ path, Selects fs text path ∧ input = .file path := by
  obtain ⟨paths, hresolve, hmembers⟩ := resolve_of_readable fs h
  rw [mem_resolved_iff, hresolve]
  constructor
  · rintro ⟨inputs, hok, hinput⟩
    obtain ⟨-, rfl⟩ := inputsOf_eq_ok_iff.mp hok
    obtain ⟨path, hpath, rfl⟩ := List.mem_map.mp hinput
    obtain ⟨text, htext, hselects⟩ := (hmembers path).mp (mem_union.mp hpath)
    exact ⟨text, htext, path, hselects, rfl⟩
  · rintro ⟨text, htext, path, hselects, rfl⟩
    have hpath : path ∈ paths := (hmembers path).mpr ⟨text, htext, hselects⟩
    exact ⟨_, inputsOf_eq_ok_iff.mpr ⟨List.ne_nil_of_mem hpath, rfl⟩,
      List.mem_map_of_mem (mem_union.mpr hpath)⟩

/-- A pattern without signs selects something. -/
theorem Literal.selects (fs : FileSystem Id) {text : String} (h : Literal text) :
    ∃ path, Selects fs text path := by
  by_cases hmatch : ∃ path, Matches fs text path
  · obtain ⟨path, hpath⟩ := hmatch
    exact ⟨path, .inl hpath⟩
  · exact ⟨text, .inr ⟨rfl, h, not_exists.mp hmatch⟩⟩

/-- **The inputs are a sorted union over the patterns.** Where patterns come to inputs, these are different
paths that rise in the order of texts, and the union of what each pattern selects. So they stay the same
however often and in whatever order the patterns are written; two lists of patterns together come to the
inputs of either; and no pattern without signs is lost. -/
theorem resolve_sorted_union (fs : FileSystem Id) {patterns : List String} (h : Readable patterns) :
    (∀ inputs, resolve fs patterns = .ok inputs →
      ∃ paths : List String, inputs = paths.map .file ∧ paths.Pairwise (· < ·) ∧
        ∀ path, path ∈ paths ↔ ∃ text ∈ patterns, Selects fs text path) ∧
    (∀ others, (∀ text, text ∈ others ↔ text ∈ patterns) → ∀ inputs,
      resolve fs others = .ok inputs ↔ resolve fs patterns = .ok inputs) ∧
    (∀ others, Readable others → ∀ input,
      input ∈ resolved fs (patterns ++ others) ↔ input ∈ resolved fs patterns ∨ input ∈ resolved fs others) ∧
    ∀ text ∈ patterns, Literal text →
      ∃ inputs path, resolve fs patterns = .ok inputs ∧ .file path ∈ inputs ∧ Selects fs text path := by
  refine ⟨fun inputs hok => ?_, fun others hsame inputs => ?_, fun others hothers input => ?_,
    fun text htext hliteral => ?_⟩
  · obtain ⟨-, paths, -, hlists, rfl⟩ := resolve_eq_ok_iff.mp hok
    exact ⟨paths, rfl, hlists.rising, hlists.members⟩
  · simp only [resolve_eq_ok_iff, Readable, lists_congr hsame, hsame]
  · have happend : Readable (patterns ++ others) := List.forall_mem_append.mpr ⟨h, hothers⟩
    rw [mem_resolved happend, mem_resolved h, mem_resolved hothers]
    simp only [List.mem_append, or_and_right, exists_or]
  · obtain ⟨path, hselects⟩ := hliteral.selects fs
    have hmem : .file path ∈ resolved fs patterns := (mem_resolved h).mpr ⟨text, htext, path, hselects, rfl⟩
    obtain ⟨inputs, hok, hfile⟩ := mem_resolved_iff.mp hmem
    exact ⟨inputs, path, hok, hfile, hselects⟩

/-- Two files and a directory, with names in no order. -/
def deskFiles : FileSystem Id where
  read path := if path = "a.json" ∨ path = "b.json" then .ok "5" else .error .notFound
  leads path := decide (path ∈ [".", "a.json", "b.json", "old"])
  isDirectory path := decide (path ∈ [".", "old"])
  names path := if path = "." then ["old", "b.json", "a.json"] else []

/-- On the desk a star selects the files, and the directory selects itself. -/
theorem resolve_sorted_union_desk :
    Readable ["*", "old"] ∧ Literal "old" ∧
      resolve deskFiles ["*", "old"] = .ok [.file "a.json", .file "b.json", .file "old"] ∧
      resolve deskFiles ["old", "*", "old"] = .ok [.file "a.json", .file "b.json", .file "old"] ∧
      (∀ input, input ∈ resolved deskFiles (["*", "old"] ++ ["*", "old"]) ↔
        input ∈ resolved deskFiles ["*", "old"] ∨ input ∈ resolved deskFiles ["*", "old"]) ∧
      ∃ inputs path, resolve deskFiles ["*", "old"] = .ok inputs ∧ .file path ∈ inputs ∧
        Selects deskFiles "old" path := by
  have hread : readPatterns ["*", "old"] =
      .ok [("*", ⟨false, [.like [.anyMany]], false⟩), ("old", ⟨false, [.named "old"], false⟩)] := by
    decide +kernel
  have hreadable : Readable ["*", "old"] := readable_iff.mpr ⟨_, hread⟩
  have hliteral : Literal "old" := isLiteral_iff.mp (by decide)
  have hunion : union ["b.json", "a.json", "old"] = ["a.json", "b.json", "old"] :=
    union_eq (by decide +kernel) fun path => List.Perm.mem_iff (.swap _ _ _)
  have hok : resolve deskFiles ["*", "old"] = .ok [.file "a.json", .file "b.json", .file "old"] := by
    rw [resolve_of_read deskFiles hread]
    exact inputsOf_eq_ok_iff.mpr ⟨by decide, congrArg (List.map InputSource.file) hunion.symm⟩
  obtain ⟨-, hsame, happend, hkept⟩ := resolve_sorted_union deskFiles hreadable
  refine ⟨hreadable, hliteral, hok, (hsame _ ?_ _).mpr hok, happend _ hreadable,
    hkept "old" (by simp) hliteral⟩
  intro text
  simp only [List.mem_cons, List.not_mem_nil, or_false]
  exact ⟨fun h => h.elim .inr id, .inr⟩

end JsonSchema
