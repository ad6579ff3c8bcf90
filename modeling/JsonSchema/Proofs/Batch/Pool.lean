import JsonSchema.Proofs.Batch.Watched
import Mathlib.Algebra.GroupWithZero.Nat
import Mathlib.Data.List.Count
import Mathlib.Data.List.Perm.Basic

/-!
# `JsonSchema.Proofs.Batch.Pool` — what the workers of a pool do, turn by turn

Workers take turns in any order, and take the inputs that are left in any order. Whatever the order, each
input is at one place: it waits, or one worker has it, or its outcome is there. So it is with the numbers
that are told of progress: each number up to the count has been told once, or one worker is about to tell
it. A turn keeps both, and if the worker has anything to do it brings the work nearer to its end.

## Contents
- **Turns.** `Stage`, `Setting.step`, and `Setting.Moves`: all that a turn can do.
- **Custody.** `Pool.placed`, `Pool.pending`; `Stage.Sound`, which `steps_sound` carries through schedules.
- **Work.** `Pool.work`, `Pool.Finished`; `finished_after_rounds`: rounds bring every pool to its end.
- **Looks.** `Moves.looks`, and `looks_after_rounds`: one look for each input.
-/

namespace JsonSchema

/-! ## Turns -/

/-- A run with workers at one moment. -/
structure Stage where
  pool : Pool
  validator : Validator
  trace : Trace

/-- A worker has nothing to do: there is no such worker, or it is idle and nothing is left. -/
def Pool.Rests (p : Pool) (worker : Nat) : Prop :=
  p.workers[worker]? = none ∨ p.workers[worker]? = some .idle ∧ p.waiting = []

namespace Setting

variable (σ : Setting) (total : Nat)

/-- What a turn makes of a stage. -/
def step (s : Stage) (turn : Turn) : Stage :=
  let x := s.pool.move σ.run total turn s.validator s.trace
  ⟨x.1.1, x.1.2, x.2⟩

/-- What the turns of a schedule make of a stage. -/
def steps (s : Stage) (schedule : List Turn) : Stage := schedule.foldl (σ.step total) s

/-- All that a turn of a worker can do. -/
inductive Moves (worker : Nat) (s : Stage) : Stage → Prop
  | rests (hrests : s.pool.Rests worker) : Moves worker s s
  | drops {place : Nat} {input : InputSource} {waiting : List (Nat × InputSource)}
      (hidle : s.pool.workers[worker]? = some .idle)
      (htoken : σ.token s.trace = true)
      (htaken : ((place, input) :: waiting).Perm s.pool.waiting) :
      Moves worker s
        ⟨{ s.pool with waiting }, s.validator, { s.trace with looks := s.trace.looks + 1 }⟩
  | takes {place : Nat} {input : InputSource} {waiting : List (Nat × InputSource)}
      (hidle : s.pool.workers[worker]? = some .idle)
      (htoken : σ.token s.trace = false)
      (htaken : ((place, input) :: waiting).Perm s.pool.waiting) :
      Moves worker s
        ⟨{ s.pool.withWorker worker (.judging place input) with waiting }, s.validator,
          { s.trace with looks := s.trace.looks + 1 }⟩
  | judges {place : Nat} {input : InputSource} {validator : Validator}
      (hbusy : s.pool.workers[worker]? = some (.judging place input))
      (hfit : validator.Fit σ.policy) :
      Moves worker s
        ⟨s.pool.withWorker worker (.counting place (σ.outcome input)), validator, s.trace⟩
  | counts {place : Nat} {outcome : Outcome}
      (hbusy : s.pool.workers[worker]? = some (.counting place outcome)) :
      Moves worker s
        ⟨{ s.pool.withWorker worker (.reporting place outcome (s.pool.done + 1)) with
            done := s.pool.done + 1 }, s.validator, s.trace⟩
  | reports {place : Nat} {outcome : Outcome} {done : Nat}
      (hbusy : s.pool.workers[worker]? = some (.reporting place outcome done)) :
      Moves worker s
        ⟨{ s.pool.withWorker worker .idle with outcomes := (place, outcome) :: s.pool.outcomes },
          s.validator, { s.trace with told := s.trace.told ++ [(done, total)] }⟩

variable {σ total} {s s' : Stage} {worker : Nat}

/-- An idle worker takes an input or drops it, if one is left. -/
theorem moves_take (hidle : s.pool.workers[worker]? = some .idle) (choice : Nat) :
    let x := s.pool.take σ.run ⟨worker, choice⟩ s.validator s.trace
    σ.Moves total worker s ⟨x.1.1, x.1.2, x.2⟩ := by
  cases hleft : s.pool.waiting[choice % s.pool.waiting.length]? with
  | none =>
      have hnil : s.pool.waiting = [] := by
        by_contra hne
        have hlt := Nat.mod_lt choice (List.length_pos_iff.mpr hne)
        exact absurd (List.getElem?_eq_none_iff.mp hleft) (Nat.not_le.mpr hlt)
      simp only [Pool.take, hleft]
      exact .rests (.inr ⟨hidle, hnil⟩)
  | some e =>
      obtain ⟨hlt, he⟩ := List.getElem?_eq_some_iff.mp hleft
      have htaken : (e :: s.pool.waiting.eraseIdx _).Perm s.pool.waiting :=
        he ▸ List.getElem_cons_eraseIdx_perm hlt
      simp only [Pool.take, hleft, bind, StateT.bind, run_cancelled]
      cases htoken : σ.token s.trace with
      | false => exact .takes hidle htoken htaken
      | true => exact .drops hidle htoken htaken

/-- **A turn does one of these things.** -/
theorem moves_step (hfit : s.validator.Fit σ.policy) (turn : Turn) :
    σ.Moves total turn.worker s (σ.step total s turn) := by
  rw [step, Pool.move]
  cases hworker : s.pool.workers[turn.worker]? with
  | none => exact .rests (.inl hworker)
  | some w =>
      cases w with
      | idle => exact moves_take hworker turn.choice
      | judging place input =>
          obtain ⟨v, hv, hjudge⟩ := σ.run_judge hfit input s.trace
          simp only [bind, StateT.bind, hjudge]
          exact .judges hworker hv
      | counting place outcome => exact .counts hworker
      | reporting place outcome done => exact .reports hworker

theorem Moves.fit (h : σ.Moves total worker s s') (hfit : s.validator.Fit σ.policy) :
    s'.validator.Fit σ.policy := by
  cases h with
  | judges _ hv => exact hv
  | _ => exact hfit

end Setting

/-! ## Custody -/

/-- The outcome that a worker will come to, with its place. -/
def Worker.placed (outcome : InputSource → Outcome) : Worker → List (Nat × Outcome)
  | .idle => []
  | .judging place input => [(place, outcome input)]
  | .counting place o | .reporting place o _ => [(place, o)]

/-- What a worker is about to tell. -/
def Worker.pending (total : Nat) : Worker → List (Nat × Nat)
  | .idle | .judging _ _ | .counting _ _ => []
  | .reporting _ _ done => [(done, total)]

namespace Pool

/-- The outcomes that a pool will come to or has come to, with their places. -/
def placed (outcome : InputSource → Outcome) (p : Pool) : List (Nat × Outcome) :=
  p.waiting.map (Prod.map id outcome) ++ p.outcomes ++ p.workers.flatMap (Worker.placed outcome)

/-- What the workers of a pool are about to tell. -/
def pending (total : Nat) (p : Pool) : List (Nat × Nat) := p.workers.flatMap (Worker.pending total)

end Pool

/-- The outcomes for inputs, with their places. -/
def places (outcome : InputSource → Outcome) (inputs : List InputSource) : List (Nat × Outcome) :=
  (List.range inputs.length).zip (inputs.map outcome)

/-- What all workers have changes by what one of them had and has. -/
theorem perm_flatMap_set {α : Type} (f : Worker → List α) {workers : List Worker} {worker : Nat}
    {w : Worker} (hw : workers[worker]? = some w) (w' : Worker) :
    (f w ++ (workers.set worker w').flatMap f).Perm (f w' ++ workers.flatMap f) := by
  induction workers generalizing worker with
  | nil => cases hw
  | cons first rest ih =>
      cases worker with
      | zero =>
          cases hw
          exact List.perm_append_comm_assoc _ _ _
      | succ worker =>
          have hrest := (ih hw).append_left (f first)
          show (f w ++ (f first ++ (rest.set worker w').flatMap f)).Perm
            (f w' ++ (f first ++ rest.flatMap f))
          exact ((List.perm_append_comm_assoc _ _ _).trans hrest).trans
            (List.perm_append_comm_assoc _ _ _)

theorem flatMap_of_idle {α : Type} (f : Worker → List α) (hf : f .idle = []) {workers : List Worker}
    (h : ∀ w ∈ workers, w = .idle) : workers.flatMap f = [] :=
  List.flatMap_eq_nil_iff.mpr fun w hw => by rw [h w hw, hf]

/-- When a worker comes to something else and gives what it no longer has to the others, or takes from
them what it has now, then all have together what they had. -/
theorem perm_of_exchange {α : Type} [DecidableEq α] (f : Worker → List α) {workers : List Worker}
    {worker : Nat} {w w' : Worker} {others others' : List α} (hw : workers[worker]? = some w)
    (h : (others' ++ f w').Perm (others ++ f w)) :
    (others' ++ (workers.set worker w').flatMap f).Perm (others ++ workers.flatMap f) := by
  -- counted entry by entry, what the worker had and has cancels out
  refine List.perm_iff_count.mpr fun e => ?_
  have hset := (perm_flatMap_set f hw w').count_eq e
  have hgiven := h.count_eq e
  rw [List.count_append, List.count_append] at hset hgiven ⊢
  omega

section Exchange

variable {p p' : Pool} {worker : Nat} {w w' : Worker} (hw : p.workers[worker]? = some w)
  (hset : p'.workers = p.workers.set worker w')
include hw hset

theorem perm_placed {outcome : InputSource → Outcome}
    (h : (p'.waiting.map (Prod.map id outcome) ++ p'.outcomes ++ w'.placed outcome).Perm
      (p.waiting.map (Prod.map id outcome) ++ p.outcomes ++ w.placed outcome)) :
    (p'.placed outcome).Perm (p.placed outcome) := by
  rw [Pool.placed, hset]
  exact perm_of_exchange _ hw h

theorem perm_pending {total : Nat} {told told' : List (Nat × Nat)}
    (h : (told' ++ w'.pending total).Perm (told ++ w.pending total)) :
    (told' ++ p'.pending total).Perm (told ++ p.pending total) := by
  rw [Pool.pending, hset]
  exact perm_of_exchange _ hw h

end Exchange

/-- Each input is at one place, and each number has been told or is about to be told. -/
structure Stage.Sound (σ : Setting) (inputs : List InputSource) (s : Stage) : Prop where
  fit : s.validator.Fit σ.policy
  placed : (s.pool.placed σ.outcome).Perm (places σ.outcome inputs)
  told : (s.trace.told ++ s.pool.pending inputs.length).Perm (numbers s.pool.done inputs.length)
  length_told : s.trace.told.length = s.pool.outcomes.length

namespace Setting

variable {σ : Setting} {inputs : List InputSource} {s s' : Stage} {worker : Nat}

/-- **A turn loses nothing and doubles nothing**, unless a worker finds the token set. -/
theorem Moves.sound (h : σ.Moves inputs.length worker s s') (htoken : σ.token s.trace = false)
    (hs : s.Sound σ inputs) : s'.Sound σ inputs := by
  have hfit := h.fit hs.fit
  cases h with
  | rests _ => exact hs
  | drops _ hset _ => rw [htoken] at hset; cases hset
  | @takes place input waiting hidle _ htaken =>
      have hmoved := (htaken.map (Prod.map id σ.outcome)).append_right s.pool.outcomes
      refine ⟨hfit, (perm_placed hidle rfl ?_).trans hs.placed,
        (perm_pending hidle rfl (by rfl)).trans hs.told, hs.length_told⟩
      rw [Worker.placed, Worker.placed, List.append_nil]
      exact List.perm_append_comm.trans hmoved
  | judges hbusy _ =>
      exact ⟨hfit, (perm_placed hbusy rfl (by rfl)).trans hs.placed,
        (perm_pending hbusy rfl (by rfl)).trans hs.told, hs.length_told⟩
  | counts hbusy =>
      -- the number is pending before it is told, and it is the next one of the count
      refine ⟨hfit, (perm_placed hbusy rfl (by rfl)).trans hs.placed, ?_, hs.length_told⟩
      have hnext : (s.trace.told ++ [(s.pool.done + 1, inputs.length)] ++ s.pool.pending inputs.length).Perm
          (numbers (s.pool.done + 1) inputs.length) := by
        rw [numbers_succ, List.append_assoc]
        refine (List.perm_append_comm.append_left _).trans ?_
        rw [← List.append_assoc]
        exact hs.told.append_right _
      refine .trans (perm_pending hbusy rfl ?_) hnext
      rw [Worker.pending, Worker.pending, List.append_nil]
  | @reports place outcome done hbusy =>
      have hgiven : (s.trace.told ++ [(done, inputs.length)]).length = s.pool.outcomes.length + 1 := by
        rw [List.length_append, hs.length_told, List.length_singleton]
      refine ⟨hfit, (perm_placed hbusy rfl ?_).trans hs.placed,
        (perm_pending hbusy rfl ?_).trans hs.told, hgiven⟩
      · rw [Worker.placed, Worker.placed, List.append_nil, List.append_assoc]
        exact (List.perm_append_singleton (place, outcome) s.pool.outcomes).symm.append_left _
      · rw [Worker.pending, Worker.pending, List.append_nil]

/-- **However the workers take turns, nothing is lost and nothing doubled**, if the token is never set. -/
theorem steps_sound (hnever : ∀ t, σ.token t = false) (hs : s.Sound σ inputs) (schedule : List Turn) :
    (σ.steps inputs.length s schedule).Sound σ inputs := by
  induction schedule generalizing s with
  | nil => exact hs
  | cons turn rest ih => exact ih ((moves_step hs.fit turn).sound (hnever _) hs)

/-- The stage before the first turn. -/
def start (σ : Setting) (workers : Nat) (inputs : List InputSource) : Stage :=
  ⟨.start workers inputs, .new σ.policy, ⟨[], 0⟩⟩

theorem start_sound (workers : Nat) : (σ.start workers inputs).Sound σ inputs := by
  have hidle : ∀ w ∈ List.replicate workers Worker.idle, w = .idle := fun w => List.eq_of_mem_replicate
  refine ⟨Validator.fit_new σ.policy, ?_, ?_, rfl⟩
  · show ((((List.range inputs.length).zip inputs).map (Prod.map id σ.outcome) ++ []) ++
      (List.replicate workers Worker.idle).flatMap (Worker.placed σ.outcome)).Perm _
    rw [flatMap_of_idle _ rfl hidle, List.append_nil, List.append_nil, places, List.zip_map_right]
  · show ([] ++ (List.replicate workers Worker.idle).flatMap (Worker.pending inputs.length)).Perm []
    rw [flatMap_of_idle _ rfl hidle, List.append_nil]

end Setting

/-! ## Work -/

/-- The turns that a worker needs until it is idle. -/
def Worker.remaining : Worker → Nat
  | .idle => 0
  | .judging _ _ => 3
  | .counting _ _ => 2
  | .reporting _ _ _ => 1

namespace Pool

/-- The turns that are needed until nothing is left. -/
def work (p : Pool) : Nat := 4 * p.waiting.length + (p.workers.map Worker.remaining).sum

/-- Nothing is left, and all workers are idle. -/
structure Finished (p : Pool) : Prop where
  waiting : p.waiting = []
  idle : ∀ w ∈ p.workers, w = .idle

variable {p p' : Pool} {worker : Nat}

/-- If no worker has anything to do, nothing is left to be done. -/
theorem finished_of_rests (hpos : 0 < p.workers.length)
    (h : ∀ worker < p.workers.length, p.Rests worker) : p.Finished where
  waiting := by
    rcases h 0 hpos with hnone | ⟨-, hnil⟩
    · exact absurd (List.getElem?_eq_none_iff.mp hnone) (Nat.not_le.mpr hpos)
    · exact hnil
  idle := by
    intro w hw
    obtain ⟨worker, hlt, rfl⟩ := List.getElem_of_mem hw
    rcases h worker hlt with hnone | ⟨hidle, -⟩
    · exact absurd (List.getElem?_eq_none_iff.mp hnone) (Nat.not_le.mpr hlt)
    · rw [List.getElem?_eq_getElem hlt] at hidle
      exact Option.some.inj hidle

theorem work_eq_zero_iff : p.work = 0 ↔ p.Finished := by
  rw [work, Nat.add_eq_zero_iff, List.sum_eq_zero_iff_forall_eq_nat]
  constructor
  · rintro ⟨hwaiting, hidle⟩
    refine ⟨List.length_eq_zero_iff.mp (by omega), fun w hw => ?_⟩
    have hnone := hidle _ (List.mem_map_of_mem hw)
    cases w with
    | idle => rfl
    | _ => cases hnone
  · rintro ⟨hwaiting, hidle⟩
    refine ⟨by rw [hwaiting, List.length_nil], fun n hn => ?_⟩
    obtain ⟨w, hw, rfl⟩ := List.mem_map.mp hn
    rw [hidle w hw, Worker.remaining]

/-- The work gets less when a worker comes to something else that leaves less to be done. -/
theorem work_lt {w w' : Worker} (hw : p.workers[worker]? = some w)
    (hset : p'.workers = p.workers.set worker w')
    (h : 4 * p'.waiting.length + w'.remaining < 4 * p.waiting.length + w.remaining) :
    p'.work < p.work := by
  -- the turns that a worker needs are counted as what it has, so the lengths change as the lists do
  have hlength := (perm_flatMap_set (fun w => List.replicate w.remaining ()) hw w').length_eq
  have hsum : w.remaining + ((p.workers.set worker w').map Worker.remaining).sum =
      w'.remaining + (p.workers.map Worker.remaining).sum := by
    simpa [List.length_flatMap] using hlength
  rw [work, work, hset]
  omega

end Pool

namespace Setting

variable {σ : Setting} {total : Nat} {s s' : Stage} {worker : Nat}

/-- **A worker that has something to do lowers the work that remains.** -/
theorem Moves.work (h : σ.Moves total worker s s') :
    s'.pool.work < s.pool.work ∨ s' = s ∧ s.pool.Rests worker := by
  cases h with
  | rests hrests => exact .inr ⟨rfl, hrests⟩
  | @drops place input waiting _ _ htaken =>
      left
      have hlength : waiting.length + 1 = s.pool.waiting.length := htaken.length_eq
      show 4 * waiting.length + (s.pool.workers.map Worker.remaining).sum <
        4 * s.pool.waiting.length + (s.pool.workers.map Worker.remaining).sum
      omega
  | @takes place input waiting hidle _ htaken =>
      have hlength : waiting.length + 1 = s.pool.waiting.length := htaken.length_eq
      have hless : 4 * waiting.length + 3 < 4 * s.pool.waiting.length + 0 := by omega
      exact .inl (Pool.work_lt hidle rfl hless)
  | judges hbusy _ => exact .inl (Pool.work_lt hbusy rfl (Nat.add_lt_add_left (Nat.lt_add_one _) _))
  | counts hbusy => exact .inl (Pool.work_lt hbusy rfl (Nat.add_lt_add_left (Nat.lt_add_one _) _))
  | reports hbusy => exact .inl (Pool.work_lt hbusy rfl (Nat.add_lt_add_left (Nat.lt_add_one _) _))

theorem Moves.length_workers (h : σ.Moves total worker s s') :
    s'.pool.workers.length = s.pool.workers.length := by
  cases h with
  | rests _ | drops _ _ _ => rfl
  | _ => exact List.length_set

variable (total)

theorem steps_fit (hfit : s.validator.Fit σ.policy) (schedule : List Turn) :
    (σ.steps total s schedule).validator.Fit σ.policy := by
  induction schedule generalizing s with
  | nil => exact hfit
  | cons turn rest ih => exact ih ((moves_step hfit turn).fit hfit)

theorem length_workers_steps (hfit : s.validator.Fit σ.policy) (schedule : List Turn) :
    (σ.steps total s schedule).pool.workers.length = s.pool.workers.length := by
  induction schedule generalizing s with
  | nil => rfl
  | cons turn rest ih =>
      have hmoves : σ.Moves total turn.worker s _ := moves_step hfit turn
      exact (ih (hmoves.fit hfit)).trans hmoves.length_workers

/-- Turns lower the work that remains, or none of them finds anything to do. -/
theorem work_steps (hfit : s.validator.Fit σ.policy) (schedule : List Turn) :
    (σ.steps total s schedule).pool.work < s.pool.work ∨
      σ.steps total s schedule = s ∧ ∀ turn ∈ schedule, s.pool.Rests turn.worker := by
  induction schedule generalizing s with
  | nil => exact .inr ⟨rfl, by simp⟩
  | cons turn rest ih =>
      have hmoves : σ.Moves total turn.worker s _ := moves_step hfit turn
      show (σ.steps total (σ.step total s turn) rest).pool.work < _ ∨
        σ.steps total (σ.step total s turn) rest = s ∧ _
      rcases hmoves.work with hless | ⟨hsame, hrests⟩
      · rcases ih (hmoves.fit hfit) with hlater | ⟨hstays, -⟩
        · exact .inl (Nat.lt_trans hlater hless)
        · exact .inl (by rwa [hstays])
      · rw [hsame]
        exact (ih hfit).imp_right fun ⟨hstays, hall⟩ =>
          ⟨hstays, List.forall_mem_cons.mpr ⟨hrests, hall⟩⟩

/-- **Once everything is done, further turns change nothing.** -/
theorem steps_of_finished (hfit : s.validator.Fit σ.policy) (hs : s.pool.Finished)
    (schedule : List Turn) : σ.steps total s schedule = s := by
  have hnone := Pool.work_eq_zero_iff.mpr hs
  rcases work_steps total hfit schedule with hless | ⟨hsame, -⟩
  · omega
  · exact hsame

/-- A round lowers the work that remains, or everything is done. -/
theorem work_round {workers : Nat} (hworkers : s.pool.workers.length = workers) (hpos : 0 < workers)
    (hfit : s.validator.Fit σ.policy) :
    (σ.steps total s (Run.round workers)).pool.work < s.pool.work ∨ s.pool.Finished := by
  refine (work_steps total hfit _).imp_right fun ⟨_, hall⟩ => ?_
  subst hworkers
  refine Pool.finished_of_rests hpos fun worker hlt => ?_
  have hturn : (⟨worker, 0⟩ : Turn) ∈ Run.round s.pool.workers.length :=
    List.mem_map.mpr ⟨worker, List.mem_range.mpr hlt, rfl⟩
  exact hall _ hturn

theorem steps_append (s : Stage) (schedule later : List Turn) :
    σ.steps total s (schedule ++ later) = σ.steps total (σ.steps total s schedule) later :=
  List.foldl_append

/-- **As many rounds as there is work bring a pool to its end.** -/
theorem finished_of_rounds {workers : Nat} (hpos : 0 < workers) {n : Nat}
    (hworkers : s.pool.workers.length = workers) (hfit : s.validator.Fit σ.policy)
    (hn : s.pool.work ≤ n) :
    (σ.steps total s (List.replicate n (Run.round workers)).flatten).pool.Finished := by
  -- a round that lowers the work leaves enough rounds for the rest; one that does not was not needed
  induction n generalizing s with
  | zero => exact Pool.work_eq_zero_iff.mp (Nat.le_zero.mp hn)
  | succ n ih =>
      rw [List.replicate_succ, List.flatten_cons, steps_append]
      rcases work_round total hworkers hpos hfit with hless | hfinished
      · exact ih ((length_workers_steps total hfit _).trans hworkers) (steps_fit total hfit _) (by omega)
      · rw [steps_of_finished total hfit hfinished, steps_of_finished total hfit hfinished]
        exact hfinished

theorem work_start (σ : Setting) (workers : Nat) (inputs : List InputSource) :
    (σ.start workers inputs).pool.work = 4 * inputs.length := by
  show 4 * ((List.range inputs.length).zip inputs).length +
    ((List.replicate workers Worker.idle).map Worker.remaining).sum = 4 * inputs.length
  simp [Worker.remaining]

/-- **Whatever a schedule says, the rounds after it leave nothing to be done.** -/
theorem finished_after_rounds {workers : Nat} (hpos : 0 < workers) (schedule : List Turn)
    (inputs : List InputSource) :
    (σ.steps total (σ.start workers inputs)
      (schedule ++ Run.rounds workers inputs.length)).pool.Finished := by
  have hfit : (σ.start workers inputs).validator.Fit σ.policy := Validator.fit_new σ.policy
  rw [steps_append]
  refine finished_of_rounds total hpos ?_ (steps_fit total hfit schedule) ?_
  · exact (length_workers_steps total hfit schedule).trans List.length_replicate
  · rw [← work_start σ workers inputs]
    rcases work_steps total hfit schedule with hless | ⟨hsame, -⟩
    · exact Nat.le_of_lt hless
    · exact Nat.le_of_eq (by rw [hsame])

/-! ## Looks -/

/-- A turn looks at the token once for each input that it takes from those that are left. -/
theorem Moves.looks (h : σ.Moves total worker s s') :
    s'.trace.looks + s'.pool.waiting.length = s.trace.looks + s.pool.waiting.length := by
  have htaken : ∀ {e : Nat × InputSource} {waiting : List (Nat × InputSource)},
      (e :: waiting).Perm s.pool.waiting →
        s.trace.looks + 1 + waiting.length = s.trace.looks + s.pool.waiting.length := by
    intro e waiting hperm
    rw [← hperm.length_eq, List.length_cons, Nat.add_right_comm, Nat.add_assoc]
  cases h with
  | drops _ _ hperm => exact htaken hperm
  | takes _ _ hperm => exact htaken hperm
  | _ => rfl

theorem steps_looks (hfit : s.validator.Fit σ.policy) (schedule : List Turn) :
    (σ.steps total s schedule).trace.looks + (σ.steps total s schedule).pool.waiting.length =
      s.trace.looks + s.pool.waiting.length := by
  induction schedule generalizing s with
  | nil => rfl
  | cons turn rest ih =>
      have hmoves : σ.Moves total turn.worker s (σ.step total s turn) := moves_step hfit turn
      exact (ih (hmoves.fit hfit)).trans hmoves.looks

/-- **At the end there has been one look for each input**, whether or not it was judged. -/
theorem looks_after_rounds {workers : Nat} (hpos : 0 < workers) (schedule : List Turn)
    (inputs : List InputSource) :
    (σ.steps total (σ.start workers inputs)
      (schedule ++ Run.rounds workers inputs.length)).trace.looks = inputs.length := by
  have hfit : (σ.start workers inputs).validator.Fit σ.policy := Validator.fit_new σ.policy
  have hlooks := steps_looks total hfit (schedule ++ Run.rounds workers inputs.length)
  have hstart : (σ.start workers inputs).pool.waiting.length = inputs.length := by
    show ((List.range inputs.length).zip inputs).length = inputs.length
    rw [List.length_zip, List.length_range, Nat.min_self]
  rw [(finished_after_rounds total hpos schedule inputs).waiting, List.length_nil, Nat.add_zero,
    hstart] at hlooks
  exact hlooks.trans (Nat.zero_add _)

end Setting

end JsonSchema
