import JsonSchema.Proofs.Batch.Refinement
import Mathlib.Data.List.Basic

/-!
# `JsonSchema.Proofs.Batch.Cancellation` — all outcomes or none

A run may be cancelled at any moment, by anyone who holds the token. A worker that finds the token set
lets its input go, so from then on there are fewer outcomes than inputs. This is never seen: a token that
has been set stays set, so the last look finds it set as well, and a run whose last look finds it set
returns no outcome. Where the last look finds it unset, every look before has done so, and then each input
has been judged.

## Contents
- **Moments.** `Trace.Before`, `Setting.Latched`, and `steps_before`.
- **Returns.** `Setting.concluded`; `inOrder_concludes`, `inPool_concludes`, and `batch_concludes`.
- **Workers after cancellation.** `Stage.OnlyFinishes`, which each turn keeps.
- **In order after cancellation.** `StopsAfter.eq_of_set` and `StopsAfter.le_of_set`.
- **Cancellation.** `judgeAll_all_or_nothing`.
-/

namespace JsonSchema

/-! ## Moments -/

/-- A trace of one moment, and a trace of that moment or a later one. -/
structure Trace.Before (t t' : Trace) : Prop where
  told : t.told <+: t'.told
  looks : t.looks ≤ t'.looks

theorem Trace.Before.refl (t : Trace) : t.Before t := ⟨List.prefix_rfl, Nat.le_refl _⟩

theorem Trace.Before.trans {t t' t'' : Trace} (h : t.Before t') (h' : t'.Before t'') : t.Before t'' :=
  ⟨h.told.trans h'.told, Nat.le_trans h.looks h'.looks⟩

/-- Less has been told when fewer are done. -/
theorem numbers_isPrefix_of_le {done later : Nat} (h : done ≤ later) (total : Nat) :
    numbers done total <+: numbers later total := by
  induction h with
  | refl => exact List.prefix_rfl
  | step _ ih =>
      rw [numbers_succ]
      exact ih.trans (List.prefix_append _ _)

namespace Setting

/-- Once it has been set, the token stays set. Nothing else is asked of it: it may be set at any moment, by
whoever is told of progress or by anyone else. -/
def Latched (σ : Setting) : Prop := ∀ t t' : Trace, t.Before t' → σ.token t = true → σ.token t' = true

variable {σ : Setting} {total : Nat} {s s' s'' : Stage} {worker : Nat}

theorem Moves.before (h : σ.Moves total worker s s') : s.trace.Before s'.trace := by
  cases h with
  | rests _ | judges _ _ | counts _ => exact .refl _
  | drops _ _ _ | takes _ _ _ => exact ⟨List.prefix_rfl, Nat.le_succ _⟩
  | reports _ => exact ⟨List.prefix_append _ _, Nat.le_refl _⟩

/-- **Turns go on in time.** -/
theorem steps_before (hfit : s.validator.Fit σ.policy) (schedule : List Turn) :
    s.trace.Before (σ.steps total s schedule).trace := by
  induction schedule generalizing s with
  | nil => exact .refl _
  | cons turn rest ih =>
      have hmoves : σ.Moves total turn.worker s (σ.step total s turn) := moves_step hfit turn
      exact hmoves.before.trans (ih (hmoves.fit hfit))

theorem stage_fit (workers : Nat) (inputs : List InputSource) (schedule : List Turn) :
    (σ.stage workers inputs schedule).validator.Fit σ.policy :=
  steps_fit inputs.length (Validator.fit_new σ.policy : (σ.start workers inputs).validator.Fit σ.policy)
    schedule

theorem length_workers_stage (workers : Nat) (inputs : List InputSource) (schedule : List Turn) :
    (σ.stage workers inputs schedule).pool.workers.length = workers := by
  have hfit : (σ.start workers inputs).validator.Fit σ.policy := Validator.fit_new σ.policy
  exact (length_workers_steps inputs.length hfit schedule).trans List.length_replicate

theorem stage_append (workers : Nat) (inputs : List InputSource) (schedule later : List Turn) :
    σ.stage workers inputs (schedule ++ later) =
      σ.steps inputs.length (σ.stage workers inputs schedule) later :=
  steps_append inputs.length _ schedule later

/-! ## Returns -/

/-- What a run returns whose last look finds a trace, and the trace after this look: all outcomes, or none
if the token has been set. -/
def concluded (σ : Setting) (inputs : List InputSource) (t : Trace) :
    Except BatchError (List Outcome) × Trace :=
  (if σ.token t then .error .cancelled else .ok (inputs.map σ.outcome),
    { t with looks := t.looks + 1 })

theorem concluded_of_set {t : Trace} (h : σ.token t = true) (inputs : List InputSource) :
    (σ.concluded inputs t).1 = .error .cancelled := by
  rw [concluded, if_pos h]

/-- A loop whose last look finds the token unset has come to its end: had the loop found the token set, the
last look would have found it set as well. -/
theorem StopsAfter.eq_length_of_last {inputs : List InputSource} {n : Nat} (hlatched : σ.Latched)
    (h : σ.StopsAfter total 0 inputs n)
    (hunset : σ.token ⟨numbers n total, min (n + 1) inputs.length⟩ = false) : n = inputs.length := by
  refine h.eq_length (Bool.eq_false_iff.mpr fun hset => ?_)
  have hlooks : n ≤ min (n + 1) inputs.length := Nat.le_min.mpr ⟨Nat.le_succ n, h.le⟩
  have hbefore : Trace.Before ⟨numbers n total, n⟩ ⟨numbers n total, min (n + 1) inputs.length⟩ :=
    ⟨List.prefix_rfl, hlooks⟩
  have hlast := hlatched _ _ hbefore hset
  rw [hunset] at hlast
  cases hlast

/-- **A run in order that stops early is cancelled**: the look that stopped it is not the last one. -/
theorem inOrder_concludes (hlatched : σ.Latched) (inputs : List InputSource) :
    ∃ n, σ.StopsAfter inputs.length 0 inputs n ∧
      (σ.run.inOrder inputs).run' (.new σ.policy) ⟨[], 0⟩ =
        σ.concluded inputs ⟨numbers n inputs.length, min (n + 1) inputs.length⟩ := by
  obtain ⟨n, v, hstops, hend⟩ := σ.run_inOrder inputs
  refine ⟨n, hstops, ?_⟩
  have hrun : (σ.run.inOrder inputs).run' (.new σ.policy) ⟨[], 0⟩ =
      (if σ.token ⟨numbers n inputs.length, min (n + 1) inputs.length⟩ then .error .cancelled
        else .ok ((inputs.take n).map σ.outcome),
        ⟨numbers n inputs.length, min (n + 1) inputs.length + 1⟩) := by
    show ((σ.run.inOrder inputs (.new σ.policy) ⟨[], 0⟩).1.1, (σ.run.inOrder inputs _ _).2) = _
    rw [hend]
  rw [hrun, concluded]
  cases htoken : σ.token ⟨numbers n inputs.length, min (n + 1) inputs.length⟩ with
  | true => rfl
  | false =>
      obtain rfl := hstops.eq_length_of_last hlatched htoken
      rw [List.take_length]

/-- **Whatever the schedule, nothing has been lost unless the token has been set.** -/
theorem steps_sound_or_set {inputs : List InputSource} (hlatched : σ.Latched) (hs : s.Sound σ inputs)
    (schedule : List Turn) :
    (σ.steps inputs.length s schedule).Sound σ inputs ∨
      σ.token (σ.steps inputs.length s schedule).trace = true := by
  induction schedule generalizing s with
  | nil => exact .inl hs
  | cons turn rest ih =>
      cases htoken : σ.token s.trace with
      | true => exact .inr (hlatched _ _ (steps_before hs.fit (turn :: rest)) htoken)
      | false => exact ih ((moves_step hs.fit turn).sound htoken hs)

/-- **Workers arrive at all outcomes or at none**, however they take turns. -/
theorem inPool_concludes (hlatched : σ.Latched) {workers : Nat} (hpos : 0 < workers)
    (schedule : List Turn) (inputs : List InputSource) :
    (σ.run.inPool workers schedule inputs).run' (.new σ.policy) ⟨[], 0⟩ =
      σ.concluded inputs (σ.arrival workers inputs schedule).trace := by
  let s := σ.arrival workers inputs schedule
  have hrun : (σ.run.inPool workers schedule inputs).run' (.new σ.policy) ⟨[], 0⟩ =
      (if σ.token s.trace then .error .cancelled else .ok s.pool.inPlace,
        { s.trace with looks := s.trace.looks + 1 }) := by
    show ((σ.run.inPool workers schedule inputs (.new σ.policy) ⟨[], 0⟩).1.1,
      (σ.run.inPool workers schedule inputs _ _).2) = _
    rw [run_inPool]
  have hfinished : s.pool.Finished := finished_after_rounds inputs.length hpos schedule inputs
  rw [hrun, concluded]
  cases htoken : σ.token s.trace with
  | true => rfl
  | false =>
      have hsound : s.Sound σ inputs := by
        rcases steps_sound_or_set hlatched (start_sound workers) _ with hsound | hset
        · exact hsound
        · exact absurd (hset.symm.trans htoken) (by decide)
      rw [(arrives_of_finished hsound hfinished).1]

/-- A batch with one job or none stops where its loop stops. -/
theorem judgeAll_few_concludes (hlatched : σ.Latched) {jobs : Nat} (hjobs : jobs ≤ 1)
    (inputs : List InputSource) :
    ∃ n, σ.StopsAfter inputs.length 0 inputs n ∧
      σ.judgeAll jobs inputs ⟨[], 0⟩ =
        σ.concluded inputs ⟨numbers n inputs.length, min (n + 1) inputs.length⟩ := by
  obtain ⟨n, hstops, hend⟩ := inOrder_concludes hlatched inputs
  exact ⟨n, hstops, by rw [judgeAll_few hjobs, hend]⟩

/-- **A batch returns all outcomes or none**, however its workers take turns. Before the last look there is
one look for each input, and there are fewer only if one of these finds the token set. -/
theorem batch_concludes (hlatched : σ.Latched) (jobs : Nat) (inputs : List InputSource)
    (schedule : List Turn) :
    ∃ t, (σ.run.batch jobs inputs schedule).run' (.new σ.policy) ⟨[], 0⟩ = σ.concluded inputs t ∧
      t.looks ≤ inputs.length ∧ (σ.token t = false → t.looks = inputs.length) := by
  rw [Run.batch]
  split
  · obtain ⟨n, hstops, hend⟩ := inOrder_concludes hlatched inputs
    refine ⟨_, hend, Nat.min_le_right _ _, fun hunset => ?_⟩
    obtain rfl := hstops.eq_length_of_last hlatched hunset
    exact Nat.min_eq_right (Nat.le_succ _)
  · have hpos : 0 < max 1 (min jobs inputs.length) := Nat.le_max_left 1 _
    have hlooks := looks_after_rounds (σ := σ) inputs.length hpos schedule inputs
    exact ⟨_, inPool_concludes hlatched hpos schedule inputs, Nat.le_of_eq hlooks, fun _ => hlooks⟩

theorem judgeAll_concludes (hlatched : σ.Latched) (jobs : Nat) (inputs : List InputSource) :
    ∃ t, σ.judgeAll jobs inputs ⟨[], 0⟩ = σ.concluded inputs t := by
  obtain ⟨t, hend, -⟩ := batch_concludes hlatched jobs inputs []
  exact ⟨t, hend⟩

end Setting

/-! ## Workers after cancellation -/

/-- The place of the input that a worker has begun and is not done with. -/
def Worker.place? : Worker → Option Nat
  | .idle => none
  | .judging place _ | .counting place _ | .reporting place _ _ => some place

/-- The places of the inputs that workers have begun and are not done with. -/
def Pool.busy (p : Pool) : List Nat := p.workers.filterMap Worker.place?

/-- The place of the input that one of the workers has begun and is not done with. -/
def Pool.at? (p : Pool) (worker : Nat) : Option Nat := p.workers[worker]?.bind Worker.place?

/-- Between two moments no worker begins an input: each is at the input where it was, or done with it; and
the outcomes that come to those there are, are for inputs that workers had begun. -/
structure Stage.OnlyFinishes (s s' : Stage) : Prop where
  at? : ∀ worker, s'.pool.at? worker = none ∨ s'.pool.at? worker = s.pool.at? worker
  outcomes : ∃ finished, s'.pool.outcomes = finished ++ s.pool.outcomes ∧
    (finished.map Prod.fst ++ s'.pool.busy).Perm s.pool.busy

section Exchange

variable {p p' : Pool} {worker : Nat} {w w' : Worker} (hw : p.workers[worker]? = some w)
  (hset : p'.workers = p.workers.set worker w')
include hw hset

theorem perm_busy {given : List Nat} (h : (given ++ w'.place?.toList).Perm w.place?.toList) :
    (given ++ p'.busy).Perm p.busy := by
  have hall : (given ++ (p.workers.set worker w').flatMap fun w => w.place?.toList).Perm
      ([] ++ p.workers.flatMap fun w => w.place?.toList) :=
    perm_of_exchange (fun w => w.place?.toList) hw h
  rw [Pool.busy, Pool.busy, hset, List.filterMap_eq_flatMap_toList, List.filterMap_eq_flatMap_toList]
  exact hall

theorem at?_of_exchange (h : w'.place? = none ∨ w'.place? = w.place?) (i : Nat) :
    p'.at? i = none ∨ p'.at? i = p.at? i := by
  obtain ⟨hlt, -⟩ := List.getElem?_eq_some_iff.mp hw
  by_cases hi : worker = i
  · subst hi
    rw [Pool.at?, Pool.at?, hset, List.getElem?_set_self hlt, hw]
    exact h
  · right
    rw [Pool.at?, Pool.at?, hset, List.getElem?_set_ne hi]

end Exchange

namespace Stage.OnlyFinishes

variable {s s' s'' : Stage}

theorem refl (s : Stage) : s.OnlyFinishes s := ⟨fun _ => .inr rfl, [], rfl, .refl _⟩

theorem trans (h : s.OnlyFinishes s') (h' : s'.OnlyFinishes s'') : s.OnlyFinishes s'' where
  at? := fun worker => by
    rcases h'.at? worker with hnone | hsame
    · exact .inl hnone
    · rw [hsame]
      exact h.at? worker
  outcomes := by
    obtain ⟨first, hfirst, hbusy⟩ := h.outcomes
    obtain ⟨second, hsecond, hbusy'⟩ := h'.outcomes
    refine ⟨second ++ first, by rw [hsecond, hfirst, List.append_assoc], ?_⟩
    rw [List.map_append]
    calc
      (second.map Prod.fst ++ first.map Prod.fst ++ s''.pool.busy).Perm
          (first.map Prod.fst ++ second.map Prod.fst ++ s''.pool.busy) :=
        List.perm_append_comm.append_right _
      _ = first.map Prod.fst ++ (second.map Prod.fst ++ s''.pool.busy) := List.append_assoc _ _ _
      List.Perm _ (first.map Prod.fst ++ s'.pool.busy) := hbusy'.append_left _
      List.Perm _ s.pool.busy := hbusy

/-- There is at most one more outcome for each worker. -/
theorem length_outcomes (h : s.OnlyFinishes s') :
    s'.pool.outcomes.length ≤ s.pool.outcomes.length + s.pool.workers.length := by
  obtain ⟨finished, houtcomes, hbusy⟩ := h.outcomes
  have hall := hbusy.length_eq
  have hworkers : s.pool.busy.length ≤ s.pool.workers.length := List.length_filterMap_le _ _
  rw [List.length_append, List.length_map] at hall
  rw [houtcomes, List.length_append]
  omega

end Stage.OnlyFinishes

namespace Setting

variable {σ : Setting} {total : Nat} {s s' : Stage} {worker : Nat}

/-- A turn begins no input once the token has been set. -/
theorem Moves.onlyFinishes (h : σ.Moves total worker s s') (htoken : σ.token s.trace = true) :
    s.OnlyFinishes s' := by
  cases h with
  | rests _ => exact .refl s
  | drops _ _ _ => exact ⟨fun _ => .inr rfl, [], rfl, .refl _⟩
  | takes _ hunset _ => rw [htoken] at hunset; cases hunset
  | judges hbusy _ =>
      exact ⟨at?_of_exchange hbusy rfl (.inr rfl), [], rfl, perm_busy hbusy rfl (.refl _)⟩
  | counts hbusy =>
      exact ⟨at?_of_exchange hbusy rfl (.inr rfl), [], rfl, perm_busy hbusy rfl (.refl _)⟩
  | @reports place outcome done hbusy =>
      exact ⟨at?_of_exchange hbusy rfl (.inl rfl), [(place, outcome)], rfl,
        perm_busy hbusy rfl (.refl _)⟩

/-- **Once the token has been set, workers only finish what they have begun.** -/
theorem steps_onlyFinishes (hlatched : σ.Latched) (hfit : s.validator.Fit σ.policy)
    (htoken : σ.token s.trace = true) (schedule : List Turn) :
    s.OnlyFinishes (σ.steps total s schedule) := by
  induction schedule generalizing s with
  | nil => exact .refl s
  | cons turn rest ih =>
      have hmoves : σ.Moves total turn.worker s (σ.step total s turn) := moves_step hfit turn
      have hstill := hlatched _ _ hmoves.before htoken
      exact (hmoves.onlyFinishes htoken).trans (ih (hmoves.fit hfit) hstill)

/-- No later stage has an input begun after the token had been set. -/
theorem stage_onlyFinishes (hlatched : σ.Latched) {workers : Nat} {inputs : List InputSource}
    {schedule : List Turn} (htoken : σ.token (σ.stage workers inputs schedule).trace = true)
    (later : List Turn) :
    (σ.stage workers inputs schedule).OnlyFinishes (σ.stage workers inputs (schedule ++ later)) := by
  rw [stage_append]
  exact steps_onlyFinishes hlatched (stage_fit workers inputs schedule) htoken later

/-- A pool whose token is set at a stage of its schedule is cancelled. -/
theorem inPool_cancelled (hlatched : σ.Latched) {workers : Nat} (hpos : 0 < workers)
    {inputs : List InputSource} {earlier : List Turn}
    (htoken : σ.token (σ.stage workers inputs earlier).trace = true) (later : List Turn) :
    ((σ.run.inPool workers (earlier ++ later) inputs).run' (.new σ.policy) ⟨[], 0⟩).1 =
      .error .cancelled := by
  have hbefore : (σ.stage workers inputs earlier).trace.Before
      (σ.arrival workers inputs (earlier ++ later)).trace := by
    rw [arrival, List.append_assoc, stage_append]
    exact steps_before (stage_fit workers inputs earlier) _
  rw [inPool_concludes hlatched hpos]
  exact concluded_of_set (hlatched _ _ hbefore htoken) inputs

/-! ## In order after cancellation -/

variable {inputs : List InputSource} {n : Nat}

theorem length_numbers (done total : Nat) : (numbers done total).length = done := by
  rw [numbers, List.length_map, List.length_range']

/-- A loop stops after the number that it told when the token was set. -/
theorem StopsAfter.eq_of_set (h : σ.StopsAfter total 0 inputs n) {k : Nat} (hk : k ≤ inputs.length)
    (hunset : ∀ t : Trace, t.told.length < k → σ.token t = false)
    (hset : ∀ t : Trace, t.told.length = k → σ.token t = true) : n = k := by
  have hlength : ∀ i, (numbers (0 + i) total).length = i := fun i => by
    rw [Nat.zero_add, length_numbers]
  rcases Nat.lt_trichotomy n k with hless | heq | hmore
  · have hstopped := h.set (Nat.lt_of_lt_of_le hless hk)
    rw [hunset _ (by rw [hlength]; exact hless)] at hstopped
    cases hstopped
  · exact heq
  · have hwent := h.unset k hmore
    rw [hset _ (hlength k)] at hwent
    cases hwent

/-- A loop is done with no input after those that it had begun when the token was set. -/
theorem StopsAfter.le_of_set (h : σ.StopsAfter total 0 inputs n) (hlatched : σ.Latched) {i begun : Nat}
    (hbegun : i ≤ begun) (hset : σ.token ⟨numbers i total, begun⟩ = true) : n ≤ begun := by
  refine Nat.le_of_not_lt fun hlt => ?_
  have hwent := h.unset begun hlt
  rw [Nat.zero_add] at hwent
  have hbefore : Trace.Before ⟨numbers i total, begun⟩ ⟨numbers begun total, begun⟩ :=
    ⟨numbers_isPrefix_of_le hbegun total, Nat.le_refl _⟩
  have hstill := hlatched _ _ hbefore hset
  rw [hwent] at hstill
  cases hstill

/-! ## Cancellation -/

/-- **A run that is cancelled returns no outcome, and every other run returns all**, whoever sets the token
and when. What decides is the last look at the token, so a run is cancelled if the token has been set
before it. Workers begin nothing after the token has been set, so each is done with one more input at
most, and so is the loop. A loop whose token is set while it tells a number tells none after it, and is
cancelled even if that number is the last. -/
theorem judgeAll_all_or_nothing (σ : Setting) (hlatched : σ.Latched) (inputs : List InputSource) :
    (∀ jobs, ∃ t, σ.judgeAll jobs inputs ⟨[], 0⟩ = σ.concluded inputs t ∧
      ∀ earlier : Trace, earlier.Before t → σ.token earlier = true →
        (σ.judgeAll jobs inputs ⟨[], 0⟩).1 = .error .cancelled) ∧
    (∀ workers > 0, ∀ schedule,
      (σ.run.inPool workers schedule inputs).run' (.new σ.policy) ⟨[], 0⟩ =
        σ.concluded inputs (σ.arrival workers inputs schedule).trace) ∧
    (∀ workers > 0, ∀ schedule, σ.token (σ.stage workers inputs schedule).trace = true → ∀ later,
      ((σ.run.inPool workers (schedule ++ later) inputs).run' (.new σ.policy) ⟨[], 0⟩).1 =
          .error .cancelled ∧
        (σ.stage workers inputs schedule).OnlyFinishes (σ.stage workers inputs (schedule ++ later)) ∧
        (σ.stage workers inputs (schedule ++ later)).pool.outcomes.length ≤
          (σ.stage workers inputs schedule).pool.outcomes.length + workers) ∧
    (∀ jobs ≤ 1, ∀ i begun, i ≤ begun → σ.token ⟨numbers i inputs.length, begun⟩ = true →
      (Watched.watch (σ.judgeAll jobs inputs)).2.length ≤ begun) ∧
    (∀ jobs ≤ 1, ∀ k ≤ inputs.length,
      (∀ t : Trace, t.told.length < k → σ.token t = false) →
      (∀ t : Trace, t.told.length = k → σ.token t = true) →
        Watched.watch (σ.judgeAll jobs inputs) = (.error .cancelled, numbers k inputs.length)) := by
  refine ⟨fun jobs => ?_, fun workers hpos schedule => inPool_concludes hlatched hpos schedule inputs,
    fun workers hpos schedule htoken later => ?_, fun jobs hjobs i begun hbegun hset => ?_,
    fun jobs hjobs k hk hunset hset => ?_⟩
  · obtain ⟨t, hend⟩ := judgeAll_concludes hlatched jobs inputs
    refine ⟨t, hend, fun earlier hbefore hset => ?_⟩
    rw [hend]
    exact concluded_of_set (hlatched _ _ hbefore hset) inputs
  · have honly := stage_onlyFinishes hlatched htoken later
    have hmore := honly.length_outcomes
    rw [length_workers_stage] at hmore
    exact ⟨inPool_cancelled hlatched hpos htoken later, honly, hmore⟩
  · obtain ⟨n, hstops, hend⟩ := judgeAll_few_concludes hlatched hjobs inputs
    have htold : (Watched.watch (σ.judgeAll jobs inputs)).2 = numbers n inputs.length := by
      rw [Watched.watch, hend]
      rfl
    rw [htold, length_numbers]
    exact hstops.le_of_set hlatched hbegun hset
  · obtain ⟨n, hstops, hend⟩ := judgeAll_few_concludes hlatched hjobs inputs
    obtain rfl := hstops.eq_of_set hk hunset hset
    have hlast : σ.token ⟨numbers n inputs.length, min (n + 1) inputs.length⟩ = true :=
      hset _ (length_numbers n _)
    rw [Watched.watch, hend, concluded, if_pos hlast]

/-- A desk that is given up as soon as two documents are done. -/
def desk : Setting where
  contents input := if input = .file "a.json" then .ok "\"tea\"" else .ok "5"
  token t := decide (2 ≤ t.told.length)
  policy := ⟨.empty, false⟩
  schema := .object [("type", .string "string")]

/-- Three documents of the desk. -/
def deskInputs : List InputSource := [.file "a.json", .file "b.json", .file "c.json"]

/-- One worker has begun the third document when the other is done with two. -/
def deskTurns : List Turn :=
  [⟨0, 0⟩, ⟨0, 0⟩, ⟨0, 0⟩, ⟨0, 0⟩, ⟨0, 0⟩, ⟨1, 0⟩, ⟨0, 0⟩, ⟨0, 0⟩, ⟨0, 0⟩]

theorem judgeAll_all_or_nothing_desk :
    desk.Latched ∧
      Watched.watch (desk.judgeAll 1 deskInputs) = (.error .cancelled, [(1, 3), (2, 3)]) ∧
      desk.token (desk.stage 2 deskInputs deskTurns).trace = true ∧
      (desk.stage 2 deskInputs deskTurns).pool.busy = [2] ∧
      ∀ later,
        ((desk.run.inPool 2 (deskTurns ++ later) deskInputs).run' (.new desk.policy) ⟨[], 0⟩).1 =
          .error .cancelled := by
  have hlatched : desk.Latched := fun t t' hbefore hset =>
    decide_eq_true (Nat.le_trans (of_decide_eq_true hset) hbefore.told.length_le)
  have hset : desk.token (desk.stage 2 deskInputs deskTurns).trace = true := by decide +kernel
  obtain ⟨-, -, hpool, -, hloop⟩ := judgeAll_all_or_nothing desk hlatched deskInputs
  refine ⟨hlatched, ?_, hset, by decide +kernel, fun later => ?_⟩
  · refine hloop 1 (Nat.le_refl 1) 2 (by decide) (fun t ht => ?_) (fun t ht => ?_)
    · exact decide_eq_false (Nat.not_le.mpr ht)
    · exact decide_eq_true (Nat.le_of_eq ht.symm)
  · exact (hpool 2 (by decide) deskTurns hset later).1

end Setting
end JsonSchema
