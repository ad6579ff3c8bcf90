import JsonSchema.Cli.Arguments

/-!
# `JsonSchema.Proofs.Cli.Arguments` — what is read for one input is read for a batch

A batch knows all options that judging one input knows, by the same names, and takes as many names as there
are. So arguments that are in order after `validate` are in order after `batch`, and say the same. What they
cannot say is left as it is before anything has been said: there is one job, and no word of progress.

## Contents
- **Options.** `ofLong?_batch`, `ofShort?_batch`: options that both commands know.
- **Settings.** `Settings.Single`: what one input leaves as it is; `set_batch`, `addName_batch`.
- **Arguments.** `setItems_batch`, `readArguments_batch`.
- **Commands.** `ofArguments_batch`.
-/

namespace JsonSchema.Cli

/-! ## Options -/

namespace Opt

theorem ofLong?_long {o : Opt} (h : o.isKnown .validate = true) :
    ofLong? .batch o.long.toList = some o := by
  cases o with
  | progress | jobs | version => cases h
  | _ => decide

/-- A long option for one input is one for a batch. -/
theorem ofLong?_batch {name : List Char} {o : Opt} (h : ofLong? .validate name = some o) :
    o.isKnown .validate = true ∧ ofLong? .batch name = some o := by
  have hfound := List.find?_some h
  rw [Bool.and_eq_true] at hfound
  obtain ⟨hknown, hname⟩ := hfound
  obtain rfl := eq_of_beq hname
  exact ⟨hknown, ofLong?_long hknown⟩

theorem ofShort?_short {o : Opt} (h : o.isKnown .validate = true) {c : Char} (hc : o.short? = some c) :
    ofShort? .batch c = some o := by
  cases o with
  | progress | jobs | version => cases h
  | quiet | verbose | help =>
      cases hc
      decide
  | _ => cases hc

/-- A short option for one input is one for a batch. -/
theorem ofShort?_batch {c : Char} {o : Opt} (h : ofShort? .validate c = some o) :
    o.isKnown .validate = true ∧ ofShort? .batch c = some o := by
  have hfound := List.find?_some h
  rw [Bool.and_eq_true] at hfound
  obtain ⟨hknown, hname⟩ := hfound
  exact ⟨hknown, ofShort?_short hknown (eq_of_beq hname)⟩

end Opt

/-! ## Settings -/

namespace Settings

/-- Settings as they are for one input. -/
structure Single (s : Settings) : Prop where
  jobs : s.jobs = 1
  progress : s.has .progress = false
  names : s.names.length ≤ 1

theorem single_none : Single none := ⟨rfl, rfl, Nat.zero_le 1⟩

variable {s t : Settings}

theorem setValue_batch (s : Settings) (o : Opt) (value : String) :
    s.setValue .batch o value = s.setValue .validate o value := by
  cases o with
  | output => simp [setValue, outputFormat?]
  | _ => rfl

/-- The value of an option for one input is no number of jobs and no name. -/
theorem setValue_keeps {o : Opt} (ho : o.isKnown .validate = true) {value : String}
    (h : s.setValue .validate o value = some t) :
    t.said = s.said ∧ t.jobs = s.jobs ∧ t.names = s.names := by
  cases o with
  | progress | jobs | version => cases ho
  | schema =>
      rw [setValue] at h
      split at h
      · cases h
      · cases h
        exact ⟨rfl, rfl, rfl⟩
  | output =>
      obtain ⟨output, -, rfl⟩ := Option.map_eq_some_iff.mp h
      exact ⟨rfl, rfl, rfl⟩
  | _ =>
      cases h
      exact ⟨rfl, rfl, rfl⟩

/-- **An option for one input sets the same for a batch.** -/
theorem Single.set_batch (hs : s.Single) {o : Opt} (ho : o.isKnown .validate = true) {value : String}
    (h : s.set .validate o value = .ok t) : t.Single ∧ s.set .batch o value = .ok t := by
  have hsame : s.set .batch o value = s.set .validate o value := by
    rw [set, set, setValue_batch]
  refine ⟨?_, hsame.trans h⟩
  have hprogress : Opt.progress ≠ o := by
    rintro rfl
    cases ho
  rw [set] at h
  split at h
  · cases h
  split at h
  · cases h
  split at h
  · cases h
  split at h
  · next s' hvalue =>
    obtain ⟨hsaid, hjobs, hnames⟩ := setValue_keeps ho hvalue
    cases h
    refine ⟨hjobs.trans hs.jobs, ?_, by rw [hnames]; exact hs.names⟩
    show (o :: s'.said).contains .progress = false
    rw [List.contains_cons, beq_false_of_ne hprogress, hsaid]
    exact hs.progress
  · cases h

/-- **A name for one input is a name for a batch.** -/
theorem Single.addName_batch (hs : s.Single) {name : String} (h : s.addName .validate name = .ok t) :
    t.Single ∧ s.addName .batch name = .ok t := by
  rw [addName] at h
  split at h
  · cases h
  · next hroom =>
    cases h
    refine ⟨⟨hs.jobs, hs.progress, ?_⟩, rfl⟩
    -- there is room for one name only
    have hnone : ¬1 ≤ s.names.length := by
      intro hfull
      exact hroom (Bool.or_eq_true_iff.mpr (.inl (decide_eq_true hfull)))
    show (s.names ++ [name]).length ≤ 1
    rw [List.length_append, List.length_singleton]
    omega

end Settings

/-! ## Arguments -/

/-- Options that have been read for one input, of which the last may wait for its value, and that a batch
reads as well. -/
structure ReadAlike (t : Settings) (waiting : Option Opt) (batch : Except Stop (Settings × Option Opt)) :
    Prop where
  single : t.Single
  known : ∀ o, waiting = some o → o.isKnown .validate = true
  same : batch = .ok (t, waiting)

section Reading

variable {s t : Settings} {waiting : Option Opt}

theorem readAlike_nil (hs : s.Single) : ReadAlike s none (setItems .batch s []) :=
  ⟨hs, fun _ hnone => absurd hnone (Option.some_ne_none _).symm, rfl⟩

/-- A flag is set like an option with an empty value. -/
theorem setItems_flag {o : Opt} (hflag : o.takesValue = false) (scope : Scope)
    (items : List (Except Stop Item)) :
    setItems scope s (.ok ⟨o, none⟩ :: items) = setItems scope s (.ok ⟨o, some ""⟩ :: items) := by
  simp only [setItems, hflag, Option.getD_none, Option.getD_some]

/-- One option before others. -/
theorem setItems_cons_batch {items items' : List (Except Stop Item)}
    (hrest : ∀ {s : Settings}, s.Single → setItems .validate s items = .ok (t, waiting) →
      ReadAlike t waiting (setItems .batch s items'))
    (hs : s.Single) {o : Opt} (ho : o.isKnown .validate = true) {value : Option String}
    (h : setItems .validate s (.ok ⟨o, value⟩ :: items) = .ok (t, waiting)) :
    ReadAlike t waiting (setItems .batch s (.ok ⟨o, value⟩ :: items')) := by
  have hset : ∀ {value : String},
      setItems .validate s (.ok ⟨o, some value⟩ :: items) = .ok (t, waiting) →
        ReadAlike t waiting (setItems .batch s (.ok ⟨o, some value⟩ :: items')) := by
    intro value hread
    simp only [setItems, Option.getD_some] at hread ⊢
    cases hvalue : s.set .validate o value with
    | error stop =>
        rw [hvalue] at hread
        cases hread
    | ok s' =>
        rw [hvalue] at hread
        obtain ⟨hs', hbatch⟩ := hs.set_batch ho hvalue
        rw [hbatch]
        exact hrest hs' hread
  cases value with
  | some value => exact hset h
  | none =>
      cases htakes : o.takesValue with
      | true =>
          -- the option waits for the next argument
          simp only [setItems, htakes] at h ⊢
          cases h
          refine ⟨hs, fun o' ho' => ?_, rfl⟩
          obtain rfl := Option.some.inj ho'
          exact ho
      | false =>
          rw [setItems_flag htakes] at h ⊢
          exact hset h

theorem setItems_last_batch (hs : s.Single) {o : Opt} (ho : o.isKnown .validate = true)
    {value : Option String} (h : setItems .validate s [.ok ⟨o, value⟩] = .ok (t, waiting)) :
    ReadAlike t waiting (setItems .batch s [.ok ⟨o, value⟩]) := by
  refine setItems_cons_batch (fun hs hread => ?_) hs ho h
  cases hread
  exact readAlike_nil hs

/-- A short option that takes a value is the last of its group, whoever knows it. -/
theorem shortItems_takes {o : Opt} (htakes : o.takesValue = true) (c : Char) (rest : List Char) :
    ∃ value, ∀ scope, Opt.ofShort? scope c = some o → shortItems scope (c :: rest) = [.ok ⟨o, value⟩] := by
  cases rest with
  | nil => exact ⟨none, fun scope hc => by simp only [shortItems, hc, htakes, if_true]⟩
  | cons d value =>
      by_cases hd : d = '='
      · exact ⟨some (String.ofList value), fun scope hc => by
          simp only [shortItems, hc, htakes, if_true, hd]⟩
      · refine ⟨some (String.ofList (d :: value)), fun scope hc => ?_⟩
        simp only [shortItems, hc, htakes, if_true]
        split
        · next heq => cases heq
        · next heq => exact absurd (List.head_eq_of_cons_eq heq) hd
        · rfl

theorem shortItems_flag {o : Opt} (hflag : o.takesValue = false) {scope : Scope} {c : Char}
    (hc : Opt.ofShort? scope c = some o) (rest : List Char) :
    shortItems scope (c :: rest) = .ok ⟨o, none⟩ :: shortItems scope rest := by
  simp only [shortItems, hc, hflag, Bool.false_eq_true, if_false]

theorem setItems_short_batch {group : List Char} (hs : s.Single)
    (h : setItems .validate s (shortItems .validate group) = .ok (t, waiting)) :
    ReadAlike t waiting (setItems .batch s (shortItems .batch group)) := by
  induction group generalizing s with
  | nil =>
      cases h
      exact readAlike_nil hs
  | cons c rest ih =>
      cases hc : Opt.ofShort? .validate c with
      | none =>
          simp only [shortItems, hc] at h
          cases h
      | some o =>
          obtain ⟨ho, hbatch⟩ := Opt.ofShort?_batch hc
          cases htakes : o.takesValue with
          | true =>
              obtain ⟨value, hvalue⟩ := shortItems_takes htakes c rest
              rw [hvalue .validate hc] at h
              rw [hvalue .batch hbatch]
              exact setItems_last_batch hs ho h
          | false =>
              rw [shortItems_flag htakes hc] at h
              rw [shortItems_flag htakes hbatch]
              exact setItems_cons_batch ih hs ho h

theorem setItems_long_batch {name : List Char} (hs : s.Single)
    (h : setItems .validate s [longItem .validate name] = .ok (t, waiting)) :
    ReadAlike t waiting (setItems .batch s [longItem .batch name]) := by
  cases hname : Opt.ofLong? .validate (splitValue name).1 with
  | none =>
      simp only [longItem, hname] at h
      cases h
  | some o =>
      obtain ⟨ho, hbatch⟩ := Opt.ofLong?_batch hname
      simp only [longItem, hname] at h
      simp only [longItem, hbatch]
      split at h
      · cases h
      · next hvalue =>
        rw [if_neg hvalue]
        exact setItems_last_batch hs ho h

/-- **The options in an argument are read alike.** -/
theorem setItems_batch {arg : String} (hs : s.Single)
    (h : setItems .validate s (items .validate arg) = .ok (t, waiting)) :
    ReadAlike t waiting (setItems .batch s (items .batch arg)) := by
  rw [items] at h ⊢
  split at h
  · exact setItems_long_batch hs h
  · exact setItems_short_batch hs h
  · cases h
    exact readAlike_nil hs

/-- **Names are read alike.** -/
theorem readNames_batch {names : List String} (hs : s.Single)
    (h : readNames .validate s names = .ok t) : t.Single ∧ readNames .batch s names = .ok t := by
  induction names generalizing s with
  | nil =>
      cases h
      exact ⟨hs, rfl⟩
  | cons name rest ih =>
      rw [readNames] at h ⊢
      cases hname : s.addName .validate name with
      | error stop =>
          rw [hname] at h
          cases h
      | ok s' =>
          obtain ⟨hs', hbatch⟩ := hs.addName_batch hname
          rw [hname] at h
          rw [hbatch]
          exact ih hs' h

/-- **Arguments are read alike.** -/
theorem readArguments_batch {args : List String} (hs : s.Single)
    (h : readArguments .validate s args = .ok t) : t.Single ∧ readArguments .batch s args = .ok t := by
  fun_induction readArguments .validate s args with
  | case1 s =>
      cases h
      exact ⟨hs, rfl⟩
  | case2 s rest => exact readNames_batch hs h
  | case4 s arg rest hnot hoption s' hread ih =>
      obtain ⟨hs', -, hbatch⟩ := setItems_batch hs hread
      rw [readArguments, if_pos hoption, hbatch]
      · exact ih hs' h
      · exact hnot
  | case8 s arg hnot hoption s' o hread value rest hvalue s'' hset ih =>
      -- the option has its value in the next argument
      obtain ⟨hs', hknown, hbatch⟩ := setItems_batch hs hread
      obtain ⟨hs'', hbatch'⟩ := hs'.set_batch (hknown o rfl) hset
      rw [readArguments, if_pos hoption, hbatch]
      · simp only [if_neg hvalue, hbatch']
        exact ih hs'' h
      · exact hnot
  | case10 s arg rest hnot hname s' hread ih =>
      obtain ⟨hs', hbatch⟩ := hs.addName_batch hread
      rw [readArguments, if_neg hname, hbatch]
      · exact ih hs' h
      · exact hnot
  | _ => cases h

end Reading

/-! ## Commands -/

/-- **What judges one input judges a batch of one**, once `batch` stands in the place of `validate`. -/
theorem ofArguments_batch {args : List String} {name schema : String} {strict : Bool}
    {rendering : Rendering}
    (h : Command.ofArguments ("validate" :: args) = .ok (.validate (some name) schema strict rendering)) :
    Command.ofArguments ("batch" :: args) = .ok (.batch [name] schema strict false 1 rendering) := by
  have hvalidate : Command.ofArguments ("validate" :: args) = readCommand "validate" args := rfl
  have hbatch : Command.ofArguments ("batch" :: args) = readCommand "batch" args := rfl
  have hscope : scopeOf? "validate" = some .validate := by decide
  have hscope' : scopeOf? "batch" = some .batch := by decide
  rw [hvalidate] at h
  simp only [readCommand, hscope] at h
  cases hread : readArguments .validate .none args with
  | error stop =>
      rw [hread] at h
      cases h
  | ok s =>
      obtain ⟨hs, hread'⟩ := readArguments_batch Settings.single_none hread
      rw [hread] at h
      cases hschema : s.schema with
      | none =>
          simp only [command?, hschema] at h
          cases h
      | some path =>
          simp only [command?, hschema] at h
          injection h with h
          injection h with hhead hpath hstrict hrendering
          -- there is a first name, and there was room for one name only
          have hnames : s.names = [name] := by
            obtain ⟨rest, hrest⟩ := List.head?_eq_some_iff.mp hhead
            have hlength := hs.names
            rw [hrest, List.length_cons] at hlength
            rw [hrest, List.length_eq_zero_iff.mp (by omega : rest.length = 0)]
          rw [hbatch]
          simp only [readCommand, hscope', hread', command?, hschema, hnames, hs.progress, hs.jobs, hpath,
            hstrict, hrendering]

end JsonSchema.Cli
