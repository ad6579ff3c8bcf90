import JsonSchema.Proofs.Batch.Pool
import Mathlib.Data.List.Nodup

/-!
# `JsonSchema.Proofs.Batch.Refinement` — workers arrive at what one loop arrives at

Judging inputs one after the other tells of progress in order and leaves the outcomes in order. Workers
tell of progress in an order of their own and leave outcomes as they come to them; sorting these by place
gives the same outcomes.

## Contents
- **In order.** `judgeFrom_stops`, `run_inOrder`, and `judgeAll_inOrder`.
- **Workers.** `inPlace_of_perm`, `arrives_of_finished`, `run_inPool`, and `inPool_arrives`.
- **Refinement.** `judgeAll_refines`.
-/

namespace JsonSchema
namespace Setting

variable {σ : Setting}

/-! ## In order -/

/-- Judging in order stops after a number of inputs: the looks before these find the token unset, and the
next one, if it is not the last input that has been judged, finds it set. -/
structure StopsAfter (σ : Setting) (total done : Nat) (inputs : List InputSource) (n : Nat) : Prop where
  le : n ≤ inputs.length
  unset : ∀ i < n, σ.token ⟨numbers (done + i) total, done + i⟩ = false
  set : n < inputs.length → σ.token ⟨numbers (done + n) total, done + n⟩ = true

/-- A loop that stops while the token is unset has come to its end. -/
theorem StopsAfter.eq_length {total n : Nat} {inputs : List InputSource}
    (h : σ.StopsAfter total 0 inputs n) (hunset : σ.token ⟨numbers n total, n⟩ = false) :
    n = inputs.length := by
  refine Nat.le_antisymm h.le (Nat.le_of_not_lt fun hlt => ?_)
  have hset := h.set hlt
  rw [Nat.zero_add, hunset] at hset
  cases hset

/-- **Judging in order** tells of one input after the other and leaves one outcome after the other, until
a look finds the token set. There is one look for each input that is judged, and one for the input, if any,
that is not. -/
theorem judgeFrom_stops (total : Nat) (inputs : List InputSource) (done : Nat) {v : Validator}
    (hv : v.Fit σ.policy) :
    ∃ (n : Nat) (v' : Validator), σ.StopsAfter total done inputs n ∧
      σ.run.judgeFrom total done inputs v ⟨numbers done total, done⟩ =
        (((inputs.take n).map σ.outcome, v'),
          ⟨numbers (done + n) total, done + min (n + 1) inputs.length⟩) := by
  induction inputs generalizing done v with
  | nil =>
      exact ⟨0, v, ⟨Nat.le_refl _, fun i hi => absurd hi (Nat.not_lt_zero i),
        fun h => absurd h (Nat.lt_irrefl _)⟩, rfl⟩
  | cons input rest ih =>
      cases htoken : σ.token ⟨numbers done total, done⟩ with
      | true =>
          refine ⟨0, v, ⟨Nat.zero_le _, fun i hi => absurd hi (Nat.not_lt_zero i), fun _ => htoken⟩, ?_⟩
          have hlooks : min (0 + 1) (input :: rest).length = 1 := Nat.min_eq_left (Nat.succ_pos _)
          simp only [Run.judgeFrom, bind, StateT.bind, run_cancelled, htoken]
          rw [hlooks]
          rfl
      | false =>
          obtain ⟨w, hw, hjudge⟩ := σ.run_judge hv input ⟨numbers done total, done + 1⟩
          obtain ⟨n, v', hstops, hrest⟩ := ih (done + 1) hw
          have hnext : ∀ i, done + 1 + i = done + (i + 1) := fun i => by omega
          have hlooks : done + 1 + min (n + 1) rest.length =
              done + min (n + 1 + 1) (input :: rest).length := by
            rw [hnext, List.length_cons, Nat.add_min_add_right]
          refine ⟨n + 1, v', ⟨Nat.succ_le_succ hstops.le, fun i hi => ?_, fun h => ?_⟩, ?_⟩
          · cases i with
            | zero => exact htoken
            | succ i =>
                rw [← hnext]
                exact hstops.unset i (Nat.lt_of_succ_lt_succ hi)
          · rw [← hnext]
            exact hstops.set (Nat.lt_of_succ_lt_succ h)
          · simp only [Run.judgeFrom, bind, StateT.bind, run_cancelled, htoken]
            rw [if_neg Bool.false_ne_true]
            simp only [bind, StateT.bind, hjudge, run_report]
            rw [← numbers_succ, hrest, hnext, hlooks]
            rfl

/-- A run ends with a last look at the token. -/
theorem run_conclude (outcomes : List Outcome) (v : Validator) (t : Trace) :
    σ.run.conclude outcomes v t =
      ((if σ.token t then .error .cancelled else .ok outcomes, v), { t with looks := t.looks + 1 }) := by
  simp only [Run.conclude, bind, StateT.bind, run_cancelled]
  cases σ.token t <;> rfl

theorem judgeAll_few {jobs : Nat} (hjobs : jobs ≤ 1) (inputs : List InputSource) :
    σ.judgeAll jobs inputs = (σ.run.inOrder inputs).run' (.new σ.policy) := by
  show (σ.run.batch jobs inputs).run' _ = _
  rw [Run.batch, if_pos hjobs]

theorem judgeAll_many {jobs : Nat} (hjobs : 1 < jobs) (inputs : List InputSource) :
    σ.judgeAll jobs inputs =
      (σ.run.inPool (max 1 (min jobs inputs.length)) [] inputs).run' (.new σ.policy) := by
  show (σ.run.batch jobs inputs).run' _ = _
  rw [Run.batch, if_neg (Nat.not_le.mpr hjobs)]

/-- What a run in order returns is what it has when it stops. -/
theorem run_inOrder (inputs : List InputSource) :
    ∃ (n : Nat) (v : Validator), σ.StopsAfter inputs.length 0 inputs n ∧
      σ.run.inOrder inputs (.new σ.policy) ⟨[], 0⟩ =
        ((if σ.token ⟨numbers n inputs.length, min (n + 1) inputs.length⟩ then .error .cancelled
            else .ok ((inputs.take n).map σ.outcome), v),
          ⟨numbers n inputs.length, min (n + 1) inputs.length + 1⟩) := by
  obtain ⟨n, v, hstops, hall⟩ := judgeFrom_stops inputs.length inputs 0 (Validator.fit_new σ.policy)
  rw [Nat.zero_add, Nat.zero_add] at hall
  refine ⟨n, v, hstops, ?_⟩
  have hfrom : σ.run.judgeFrom inputs.length 0 inputs (.new σ.policy) ⟨[], 0⟩ =
      (((inputs.take n).map σ.outcome, v),
        ⟨numbers n inputs.length, min (n + 1) inputs.length⟩) := hall
  simp only [Run.inOrder, bind, StateT.bind]
  rw [hfrom]
  exact run_conclude _ _ _

/-- A batch with one job or none tells of its inputs in order. -/
theorem judgeAll_inOrder (hnever : ∀ t, σ.token t = false) {jobs : Nat} (hjobs : jobs ≤ 1)
    (inputs : List InputSource) :
    Watched.watch (σ.judgeAll jobs inputs) =
      (.ok (inputs.map σ.outcome), numbers inputs.length inputs.length) := by
  obtain ⟨n, v, hstops, hend⟩ := σ.run_inOrder inputs
  obtain rfl := hstops.eq_length (hnever _)
  rw [judgeAll_few hjobs, Watched.watch_run', hend, hnever, if_neg Bool.false_ne_true, List.take_length]

/-! ## Workers -/

/-- Sorting outcomes by place puts them in the order of their inputs. -/
theorem inPlace_of_perm {p : Pool} {outcome : InputSource → Outcome} {inputs : List InputSource}
    (h : p.outcomes.Perm (places outcome inputs)) : p.inPlace = inputs.map outcome := by
  have hfst : (places outcome inputs).map Prod.fst = List.range inputs.length :=
    List.map_fst_zip (by simp)
  have hsnd : (places outcome inputs).map Prod.snd = inputs.map outcome :=
    List.map_snd_zip (by simp)
  have hnodup : ((places outcome inputs).map Prod.fst).Nodup := by
    rw [hfst]
    exact List.nodup_range
  have hsorted : (places outcome inputs).Pairwise fun a b => a.1 ≤ b.1 := by
    rw [← List.pairwise_map (f := Prod.fst) (R := (· ≤ ·)), hfst]
    exact List.pairwise_le_range
  have hmerged := (List.mergeSort_perm p.outcomes fun a b => decide (a.1 ≤ b.1)).trans h
  suffices hsame : p.outcomes.mergeSort (fun a b => decide (a.1 ≤ b.1)) = places outcome inputs by
    rw [Pool.inPlace, hsame, hsnd]
  have hmerge : (p.outcomes.mergeSort fun a b => decide (a.1 ≤ b.1)).Pairwise
      fun a b => a.1 ≤ b.1 := by
    refine (List.pairwise_mergeSort ?_ ?_ p.outcomes).imp of_decide_eq_true
    · intro a b c hab hbc
      have hle := Nat.le_trans (of_decide_eq_true hab) (of_decide_eq_true hbc)
      exact decide_eq_true hle
    · intro a b
      simpa using Nat.le_total a.1 b.1
  refine List.Perm.eq_of_pairwise (fun a b ha hb hab hba => ?_) hmerge hsorted hmerged
  exact List.inj_on_of_nodup_map hnodup (hmerged.subset ha) hb (Nat.le_antisymm hab hba)

/-- **When everything is done**, the outcomes are those for the inputs, in their order, and each number has
been told once. -/
theorem arrives_of_finished {inputs : List InputSource} {s : Stage} (hs : s.Sound σ inputs)
    (hdone : s.pool.Finished) :
    s.pool.inPlace = inputs.map σ.outcome ∧
      s.trace.told.Perm (numbers inputs.length inputs.length) := by
  have hplaced : s.pool.outcomes.Perm (places σ.outcome inputs) := by
    have hall := hs.placed
    rw [Pool.placed, hdone.waiting, flatMap_of_idle _ rfl hdone.idle, List.map_nil, List.nil_append,
      List.append_nil] at hall
    exact hall
  have htold : s.trace.told.Perm (numbers s.pool.done inputs.length) := by
    have hall := hs.told
    rw [Pool.pending, flatMap_of_idle _ rfl hdone.idle, List.append_nil] at hall
    exact hall
  -- every number up to the count has been told, so the count is that of the outcomes
  have hcount : s.pool.done = inputs.length := by
    have htolds := htold.length_eq
    have houtcomes := hplaced.length_eq
    have hlength := hs.length_told
    simp only [numbers, places, List.length_map, List.length_range', List.length_zip, List.length_range,
      Nat.min_self] at htolds houtcomes
    omega
  rw [hcount] at htold
  exact ⟨inPlace_of_perm hplaced, htold⟩

/-- The turns of a schedule, as the run takes them. -/
theorem after_eq (total : Nat) (s : Stage) (schedule : List Turn) :
    s.pool.after σ.run total schedule s.validator s.trace =
      (((σ.steps total s schedule).pool, (σ.steps total s schedule).validator),
        (σ.steps total s schedule).trace) := by
  induction schedule generalizing s with
  | nil => rfl
  | cons turn rest ih => exact ih (σ.step total s turn)

/-- The stage of a run in a pool after the turns of a schedule. -/
def stage (σ : Setting) (workers : Nat) (inputs : List InputSource) (schedule : List Turn) : Stage :=
  σ.steps inputs.length (σ.start workers inputs) schedule

/-- The stage at the end of a run in a pool: the rounds after a schedule have left nothing to be done. -/
def arrival (σ : Setting) (workers : Nat) (inputs : List InputSource) (schedule : List Turn) : Stage :=
  σ.stage workers inputs (schedule ++ Run.rounds workers inputs.length)

/-- What a run in a pool returns is what it finds at the end of its turns. -/
theorem run_inPool (workers : Nat) (schedule : List Turn) (inputs : List InputSource) :
    let s := σ.arrival workers inputs schedule
    σ.run.inPool workers schedule inputs (.new σ.policy) ⟨[], 0⟩ =
      ((if σ.token s.trace then .error .cancelled else .ok s.pool.inPlace, s.validator),
        { s.trace with looks := s.trace.looks + 1 }) := by
  intro s
  have hafter : (Pool.start workers inputs).after σ.run inputs.length
      (schedule ++ Run.rounds workers inputs.length) (.new σ.policy) ⟨[], 0⟩ =
        ((s.pool, s.validator), s.trace) := after_eq inputs.length (σ.start workers inputs) _
  simp only [Run.inPool, bind, StateT.bind]
  rw [hafter]
  exact run_conclude _ _ _

/-- **Workers arrive at the outcomes in the order of the inputs, however they take turns**. -/
theorem inPool_arrives (hnever : ∀ t, σ.token t = false) {workers : Nat} (hpos : 0 < workers)
    (schedule : List Turn) (inputs : List InputSource) :
    ∃ told, Watched.watch ((σ.run.inPool workers schedule inputs).run' (.new σ.policy)) =
        (.ok (inputs.map σ.outcome), told) ∧
      told.Perm (numbers inputs.length inputs.length) := by
  let s := σ.arrival workers inputs schedule
  have hsound : s.Sound σ inputs := steps_sound hnever (start_sound workers) _
  have hfinished : s.pool.Finished := finished_after_rounds inputs.length hpos schedule inputs
  obtain ⟨hplace, htold⟩ := arrives_of_finished hsound hfinished
  refine ⟨s.trace.told, ?_, htold⟩
  rw [Watched.watch_run', run_inPool, hnever, if_neg Bool.false_ne_true, hplace]

/-! ## Refinement -/

/-- **Workers refine the loop**: if the token is never set, then a batch with several jobs comes to the
outcomes that a batch with one job or none comes to, one for each input and in the order of the inputs,
and tells each number from one to all once. This holds of every schedule that the workers may follow
until nothing is left, and so of the batch as it runs. -/
theorem judgeAll_refines (σ : Setting) (hnever : ∀ t, σ.token t = false) {jobs : Nat} (hjobs : 1 < jobs)
    (inputs : List InputSource) :
    (∀ few ≤ 1, Watched.watch (σ.judgeAll few inputs) =
      (.ok (inputs.map σ.outcome), numbers inputs.length inputs.length)) ∧
    (∀ schedule, ∃ told,
      Watched.watch ((σ.run.inPool jobs schedule inputs).run' (.new σ.policy)) =
        (.ok (inputs.map σ.outcome), told) ∧ told.Perm (numbers inputs.length inputs.length)) ∧
    ∃ told, Watched.watch (σ.judgeAll jobs inputs) = (.ok (inputs.map σ.outcome), told) ∧
      told.Perm (numbers inputs.length inputs.length) := by
  refine ⟨fun few hfew => judgeAll_inOrder hnever hfew inputs,
    fun schedule => inPool_arrives hnever (Nat.lt_trans Nat.zero_lt_one hjobs) schedule inputs, ?_⟩
  rw [judgeAll_many hjobs]
  exact inPool_arrives hnever (Nat.le_max_left 1 _) [] inputs

/-- A directory with two documents, of which one is no text. -/
def shelf : Setting where
  contents input :=
    if input = .file "a.json" then .ok "\"tea\""
    else if input = .file "b.json" then .ok "5"
    else .error .notFound
  token _ := false
  policy := ⟨.empty, false⟩
  schema := .object [("type", .string "string")]

/-- Two documents of the shelf, and one that is missing. -/
def shelfInputs : List InputSource := [.file "b.json", .file "a.json", .file "c.json"]

theorem judgeAll_refines_shelf :
    (∀ t, shelf.token t = false) ∧ 1 < 2 ∧
      (∀ schedule, ∃ told,
        Watched.watch ((shelf.run.inPool 2 schedule shelfInputs).run' (.new shelf.policy)) =
          (.ok [⟨"b.json", some ⟨[⟨[], "type", "expected string, found number"⟩]⟩, none⟩,
            ⟨"a.json", some ⟨[]⟩, none⟩,
            ⟨"c.json", none, some "cannot read input: No such file or directory (os error 2)"⟩], told) ∧
        told.Perm [(1, 3), (2, 3), (3, 3)]) := by
  have houtcomes : shelfInputs.map shelf.outcome =
      [⟨"b.json", some ⟨[⟨[], "type", "expected string, found number"⟩]⟩, none⟩,
        ⟨"a.json", some ⟨[]⟩, none⟩,
        ⟨"c.json", none, some "cannot read input: No such file or directory (os error 2)"⟩] := by
    decide +kernel
  obtain ⟨-, hpool, -⟩ := judgeAll_refines shelf (fun _ => rfl) (by decide : 1 < 2) shelfInputs
  rw [houtcomes] at hpool
  exact ⟨fun _ => rfl, by decide, hpool⟩

end Setting
end JsonSchema
