import JsonSchema.Schema.SharedCache
import JsonSchema.Proofs.Schema.PatternCache

/-!
# `JsonSchema.Proofs.Schema.SharedCache` — a shared cache makes no difference to a verdict

Between the look-up of a pattern and the moment its outcome is stored, other calls may store outcomes for
the same pattern. All of them are what compilation gives, so whichever is stored last and whichever is
found, a cache stays faithful and a call comes to the verdict that it would come to alone. It does so by
its own steps: the others can neither add to its work nor hold it up.

## Contents
- **Steps.** `Call.Steps`: all that a step of a call can do.
- **Calls.** `Call.Sound`, kept by `Steps.sound`; `Call.work`, which each step lowers.
- **Calls alone.** `alone_eq`, and `validate_eq_alone`: `Validator.validate` is a call that is not
  interrupted.
- **Sessions.** `Session.Sound`, kept by `run_sound`; `verdict?_of_asked`, and `verdict?_of_steps`.
-/

namespace JsonSchema

/-! ## Steps -/

/-- All that a step of a call can do. -/
inductive Call.Steps (cache : PatternCache) (c : Call) : Call → PatternCache → Prop where
  | rests (htask : c.task = .settle) (hleft : c.left = []) : Steps cache c c cache
  | reports {path : Path} {b : Breach} {rest : List Finding} (htask : c.task = .settle)
      (hleft : c.left = .breach path b :: rest) :
      Steps cache c ({ c with left := rest }.report (some (.ofBreach path b))) cache
  | recalls {path : Path} {text source : String} {rest : List Finding} {outcome : Option Pattern}
      (htask : c.task = .settle) (hleft : c.left = .test path text source :: rest)
      (hfind : cache.find? source = some outcome) :
      Steps cache c ({ c with left := rest }.report (Finding.judge path text source outcome)) cache
  | misses {path : Path} {text source : String} {rest : List Finding} (htask : c.task = .settle)
      (hleft : c.left = .test path text source :: rest) (hfind : cache.find? source = none) :
      Steps cache c { c with left := rest, task := .compile path text source } cache
  | compiles {path : Path} {text source : String} (htask : c.task = .compile path text source) :
      Steps cache c { c with task := .store path text source (Pattern.compile? source) } cache
  | stores {path : Path} {text source : String} {outcome : Option Pattern}
      (htask : c.task = .store path text source outcome) :
      Steps cache c (c.report (Finding.judge path text source outcome)) (cache.store source outcome)

/-- **A step does one of these things.** -/
theorem Call.steps_step (cache : PatternCache) (c : Call) :
    c.Steps cache (c.step cache).1 (c.step cache).2 := by
  unfold step
  cases htask : c.task with
  | compile path text source => exact .compiles htask
  | store path text source outcome => exact .stores htask
  | settle =>
      cases hleft : c.left with
      | nil => exact .rests htask hleft
      | cons f rest =>
          cases f with
          | breach path b => exact .reports htask hleft
          | test path text source =>
              cases hfind : cache.find? source with
              | none =>
                  simp only [hfind]
                  exact .misses htask hleft hfind
              | some outcome =>
                  simp only [hfind]
                  exact .recalls htask hleft hfind

/-! ## Calls -/

namespace Task

/-- The violation, if any, that the finding at hand will make. -/
def owed : Task → Option Violation
  | .settle => none
  | .compile path text source | .store path text source _ =>
    Finding.judge path text source (Pattern.compile? source)

/-- The steps until the finding at hand has been settled. -/
def remaining : Task → Nat
  | .settle => 0
  | .compile _ _ _ => 2
  | .store _ _ _ _ => 1

end Task

namespace Call

/-- The steps that a call has to make at most. A finding takes three where its pattern is not known. -/
def work (c : Call) : Nat := c.task.remaining + 3 * c.left.length

/-- What a call has reported and what it has yet to report are the violations of its document; an outcome
that it is about to store is the one that compilation gives. -/
structure Sound (policy : FormatPolicy) (c : Call) : Prop where
  outcome : ∀ path text source o, c.task = .store path text source o → o = Pattern.compile? source
  violations : c.violations ++ c.task.owed.toList ++
      c.left.filterMap (Finding.settle Pattern.compile?) =
    (validate policy c.schema c.document).violations
  work_le : c.work ≤ 3 * (findings policy c.schema .root c.document).length

variable {policy : FormatPolicy} {cache cache' : PatternCache} {c c' : Call}

theorem start_sound (policy : FormatPolicy) (schema document : Value) :
    (start policy schema document).Sound policy where
  outcome := by
    intro path text source o htask
    cases htask
  violations := rfl
  work_le := Nat.le_of_eq (Nat.zero_add _)

/-- What a call that goes on to the next finding has yet to report begins with what this finding makes. -/
theorem Sound.settles (hc : c.Sound policy) (htask : c.task = .settle) {f : Finding} {rest : List Finding}
    (hleft : c.left = f :: rest) :
    c.violations ++ (f.settle Pattern.compile?).toList ++ rest.filterMap (Finding.settle Pattern.compile?) =
      (validate policy c.schema c.document).violations := by
  have hall := hc.violations
  rw [htask, hleft, List.filterMap_cons] at hall
  rw [← hall, Task.owed, List.append_assoc]
  cases f.settle Pattern.compile? with
  | none => simp
  | some violation => simp

/-- A step keeps what the call is about. -/
theorem Steps.request_eq (h : c.Steps cache c' cache') :
    c'.schema = c.schema ∧ c'.document = c.document := by
  cases h <;> exact ⟨rfl, rfl⟩

/-- **Each step lowers the work of its call**, until there is none. -/
theorem Steps.work_le (h : c.Steps cache c' cache') : c'.work ≤ c.work - 1 := by
  cases h with
  | rests htask hleft =>
      rw [work, htask, hleft]
      exact Nat.zero_le _
  | reports htask hleft | recalls htask hleft _ | misses htask hleft _ =>
      simp only [work, report, htask, hleft, Task.remaining, List.length_cons]
      omega
  | compiles htask | stores htask =>
      simp only [work, report, htask, Task.remaining]
      omega

/-- **A step keeps a call sound and a cache faithful**, whatever other calls have done to the cache since
the last one. -/
theorem Steps.sound (h : c.Steps cache c' cache') (hcache : cache.Faithful) (hc : c.Sound policy) :
    c'.Sound policy ∧ cache'.Faithful := by
  have hwork : c'.work ≤ 3 * (findings policy c.schema .root c.document).length :=
    Nat.le_trans (Nat.le_trans h.work_le (Nat.sub_le _ _)) hc.work_le
  cases h with
  | rests _ _ => exact ⟨hc, hcache⟩
  | @reports path b rest htask hleft =>
      refine ⟨⟨fun _ _ _ _ hstore => (by cases hstore), ?_, hwork⟩, hcache⟩
      show c.violations ++ [.ofBreach path b] ++ [] ++ rest.filterMap (Finding.settle Pattern.compile?) =
        (validate policy c.schema c.document).violations
      rw [List.append_nil]
      exact hc.settles htask hleft
  | @recalls path text source rest outcome htask hleft hfind =>
      -- what the cache remembers is what compilation would give now
      obtain rfl : outcome = Pattern.compile? source := hcache source outcome hfind
      refine ⟨⟨fun _ _ _ _ hstore => (by cases hstore), ?_, hwork⟩, hcache⟩
      show c.violations ++ (Finding.judge path text source (Pattern.compile? source)).toList ++ [] ++
          rest.filterMap (Finding.settle Pattern.compile?) =
        (validate policy c.schema c.document).violations
      rw [List.append_nil]
      exact hc.settles htask hleft
  | misses htask hleft _ =>
      exact ⟨⟨fun _ _ _ _ hstore => (by cases hstore), hc.settles htask hleft, hwork⟩, hcache⟩
  | @compiles path text source htask =>
      refine ⟨⟨fun _ _ _ o hstore => ?_, ?_, hwork⟩, hcache⟩
      · cases hstore
        rfl
      · have hall := hc.violations
        rw [htask] at hall
        exact hall
  | @stores path text source outcome htask =>
      obtain rfl : outcome = Pattern.compile? source := hc.outcome path text source outcome htask
      refine ⟨⟨fun _ _ _ _ hstore => (by cases hstore), ?_, hwork⟩,
        PatternCache.faithful_store hcache source⟩
      have hall := hc.violations
      rw [htask] at hall
      show c.violations ++ (Finding.judge path text source _).toList ++ [] ++ _ = _
      rw [List.append_nil]
      exact hall

theorem verdict?_eq_some {verdict : Verdict} (h : c.verdict? = some verdict) :
    c.task = .settle ∧ c.left = [] ∧ verdict = ⟨c.violations⟩ := by
  unfold verdict? at h
  split at h
  case h_1 htask hleft => exact ⟨htask, hleft, (Option.some.inj h).symm⟩
  case h_2 => cases h

/-- A call without work has a verdict. -/
theorem verdict?_of_work (h : c.work = 0) : c.verdict? = some ⟨c.violations⟩ := by
  have hparts := Nat.add_eq_zero_iff.mp h
  have hleft : c.left = [] := List.length_eq_zero_iff.mp (by omega)
  have htask : c.task = .settle := by
    cases ht : c.task with
    | settle => rfl
    | compile path text source | store path text source outcome =>
        rw [ht] at hparts
        exact absurd hparts.1 (Nat.succ_ne_zero _)
  rw [verdict?, htask, hleft]

/-- **The verdict of a sound call is that on its document**, by a validator that has met no pattern. -/
theorem Sound.verdict_eq (hc : c.Sound policy) {verdict : Verdict} (h : c.verdict? = some verdict) :
    verdict = ((Validator.new policy).validate c.schema c.document).1 := by
  obtain ⟨htask, hleft, rfl⟩ := verdict?_eq_some h
  have hall := hc.violations
  rw [htask, hleft] at hall
  have hviolations : c.violations = (validate policy c.schema c.document).violations := by
    simpa [Task.owed] using hall
  rw [(Validator.validate_of_faithful PatternCache.faithful_empty c.schema c.document).1, hviolations]
  rfl

end Call

/-! ## Calls alone -/

namespace Call

/-- A call that no other call interrupts settles its findings as `settleAll` does. -/
theorem alone_eq {n : Nat} (cache : PatternCache) (c : Call) (htask : c.task = .settle)
    (hn : 3 * c.left.length ≤ n) :
    c.alone n cache =
      ({ c with left := [], violations := c.violations ++ (settleAll cache c.left).1 },
        (settleAll cache c.left).2) := by
  obtain ⟨schema, document, task, left, violations⟩ := c
  obtain rfl : task = .settle := htask
  induction left generalizing n cache violations with
  | nil =>
      -- nothing is left, so further steps change nothing
      rw [settleAll, List.append_nil]
      clear hn
      induction n with
      | zero => rfl
      | succ n ih => exact ih
  | cons f rest ih =>
      rw [List.length_cons] at hn
      cases f with
      | breach path b =>
          obtain ⟨n, rfl⟩ : ∃ m, n = m + 1 := ⟨n - 1, by omega⟩
          have hrest := ih cache (violations ++ [.ofBreach path b]) (by show 3 * rest.length ≤ n; omega)
          rw [settleAll, alone]
          show alone n cache ⟨schema, document, .settle, rest, violations ++ [.ofBreach path b]⟩ = _
          rw [hrest, List.append_assoc]
          rfl
      | test path text source =>
          cases hfind : cache.find? source with
          | some outcome =>
              obtain ⟨n, rfl⟩ : ∃ m, n = m + 1 := ⟨n - 1, by omega⟩
              have hrest := ih cache
                (violations ++ (Finding.judge path text source outcome).toList)
                (by show 3 * rest.length ≤ n; omega)
              have hcompile : cache.compile source = (outcome, cache) := by
                simp only [PatternCache.compile, hfind]
              rw [settleAll, hcompile, alone, step]
              simp only [hfind, report]
              rw [hrest, List.append_assoc]
          | none =>
              obtain ⟨n, rfl⟩ : ∃ m, n = m + 3 := ⟨n - 3, by omega⟩
              have hrest := ih (cache.store source (Pattern.compile? source))
                (violations ++ (Finding.judge path text source (Pattern.compile? source)).toList)
                (by show 3 * rest.length ≤ n; omega)
              have hcompile : cache.compile source =
                  (Pattern.compile? source, cache.store source (Pattern.compile? source)) := by
                simp only [PatternCache.compile, hfind]
              rw [settleAll, hcompile, alone, step]
              simp only [hfind, alone, step, report]
              rw [hrest, List.append_assoc]

/-- **A validator that is called once at a time makes the steps of a call one after the other**: it comes
to the verdict and to the cache that these come to. -/
theorem validate_eq_alone (v : Validator) (schema document : Value) :
    let steps := 3 * (findings v.policy schema .root document).length
    let x := (start v.policy schema document).alone steps v.cache
    x.1.verdict? = some (v.validate schema document).1 ∧ x.2 = (v.validate schema document).2.cache := by
  intro steps x
  have hx : x = ({ start v.policy schema document with
      left := [], violations := [] ++ (settleAll v.cache (findings v.policy schema .root document)).1 },
      (settleAll v.cache (findings v.policy schema .root document)).2) :=
    alone_eq v.cache _ rfl (Nat.le_refl _)
  rw [hx]
  exact ⟨rfl, rfl⟩

end Call

/-! ## Sessions -/

namespace Session

/-- The cache of a session is faithful, and its calls are sound. -/
structure Sound (policy : FormatPolicy) (s : Session) : Prop where
  policy_eq : s.policy = policy
  faithful : s.cache.Faithful
  calls : ∀ c ∈ s.calls, c.Sound policy

variable {policy : FormatPolicy} {s : Session} {i : Nat}

theorem next_step_of_none (h : s.calls[i]? = none) : s.next (.step i) = s := by
  simp only [next, h]

theorem next_step_of_some {c : Call} (h : s.calls[i]? = some c) :
    s.next (.step i) =
      { s with calls := s.calls.set i (c.step s.cache).1, cache := (c.step s.cache).2 } := by
  simp only [next, h]

theorem asked_append (events later : List Event) : asked (events ++ later) = asked events ++ asked later :=
  List.filterMap_append

theorem next_sound (hs : s.Sound policy) (event : Event) : (s.next event).Sound policy := by
  cases event with
  | call schema document =>
      refine ⟨hs.policy_eq, hs.faithful, fun c hc => ?_⟩
      rcases List.mem_append.mp hc with hold | hnew
      · exact hs.calls c hold
      · rw [List.mem_singleton.mp hnew, hs.policy_eq]
        exact Call.start_sound policy schema document
  | step i =>
      cases hi : s.calls[i]? with
      | none => rwa [next_step_of_none hi]
      | some c =>
          have hc := hs.calls c (List.mem_of_getElem? hi)
          obtain ⟨hsound, hfaithful⟩ := (c.steps_step s.cache).sound hs.faithful hc
          rw [next_step_of_some hi]
          refine ⟨hs.policy_eq, hfaithful, fun d hd => ?_⟩
          rcases List.mem_or_eq_of_mem_set hd with hold | rfl
          · exact hs.calls d hold
          · exact hsound

/-- **However the steps of calls interleave, the cache is faithful and the calls are sound.** -/
theorem run_sound (hs : s.Sound policy) (events : List Event) : (s.run events).Sound policy := by
  induction events generalizing s with
  | nil => exact hs
  | cons event rest ih => exact ih (next_sound hs event)

theorem after_sound (policy : FormatPolicy) (events : List Event) :
    (after policy events).Sound policy := by
  have hstart : Session.Sound policy ⟨policy, .empty, []⟩ :=
    ⟨rfl, PatternCache.faithful_empty, fun c hc => absurd hc List.not_mem_nil⟩
  exact run_sound hstart events

/-- What the calls of a session are about, in the order in which they began. -/
def requests (s : Session) : List (Value × Value) := s.calls.map fun c => (c.schema, c.document)

theorem requests_next (s : Session) (event : Event) :
    (s.next event).requests = s.requests ++ asked [event] := by
  cases event with
  | call schema document => exact List.map_append
  | step i =>
      show (s.next (.step i)).requests = s.requests ++ []
      rw [List.append_nil]
      cases hi : s.calls[i]? with
      | none => rw [next_step_of_none hi]
      | some c =>
          obtain ⟨hschema, hdocument⟩ := (c.steps_step s.cache).request_eq
          have hasked : s.requests[i]? = some (c.schema, c.document) := by
            rw [requests, List.getElem?_map, hi, Option.map_some]
          obtain ⟨hlt, hsame⟩ := List.getElem?_eq_some_iff.mp hasked
          rw [next_step_of_some hi]
          show (s.calls.set i (c.step s.cache).1).map _ = s.requests
          rw [List.map_set, hschema, hdocument, ← hsame]
          exact List.set_getElem_self _

theorem requests_run (s : Session) (events : List Event) :
    (s.run events).requests = s.requests ++ asked events := by
  induction events generalizing s with
  | nil => exact (List.append_nil _).symm
  | cons event rest ih =>
      show ((s.next event).run rest).requests = _
      rw [ih, requests_next, List.append_assoc, ← asked_append]
      rfl

/-- The calls that have been asked for are there. -/
theorem call_of_asked {events : List Event} {schema document : Value}
    (h : (asked events)[i]? = some (schema, document)) (policy : FormatPolicy) :
    ∃ c, (after policy events).calls[i]? = some c ∧ c.schema = schema ∧ c.document = document := by
  have hrequests : (after policy events).requests = asked events := requests_run _ events
  rw [← hrequests, requests, List.getElem?_map, Option.map_eq_some_iff] at h
  obtain ⟨c, hc, heq⟩ := h
  exact ⟨c, hc, (Prod.mk.inj heq).1, (Prod.mk.inj heq).2⟩

/-- **A call that has come to a verdict has come to that of a new validator.** -/
theorem verdict?_of_asked {events : List Event} {schema document : Value}
    (h : (asked events)[i]? = some (schema, document)) {verdict : Verdict}
    (hverdict : (after policy events).verdict? i = some verdict) :
    verdict = ((Validator.new policy).validate schema document).1 := by
  obtain ⟨c, hc, rfl, rfl⟩ := call_of_asked h policy
  rw [verdict?, hc, Option.bind_some] at hverdict
  exact ((after_sound policy events).calls c (List.mem_of_getElem? hc)).verdict_eq hverdict

/-- An event leaves a call in place, and lowers its work if it is a step of it. -/
theorem work_next {c : Call} (hi : s.calls[i]? = some c) (event : Event) :
    ∃ c', (s.next event).calls[i]? = some c' ∧
      c'.work ≤ c.work - if event.isStepOf i then 1 else 0 := by
  obtain ⟨hlt, -⟩ := List.getElem?_eq_some_iff.mp hi
  cases event with
  | call schema document =>
      refine ⟨c, ?_, Nat.le_refl _⟩
      show (s.calls ++ [_])[i]? = some c
      rw [List.getElem?_append_left hlt, hi]
  | step j =>
      by_cases hij : j = i
      · subst hij
        refine ⟨(c.step s.cache).1, ?_, ?_⟩
        · rw [next_step_of_some hi]
          exact List.getElem?_set_self hlt
        · rw [Event.isStepOf, beq_self_eq_true, if_pos rfl]
          exact (c.steps_step s.cache).work_le
      · -- a step of another call leaves this one as it is
        refine ⟨c, ?_, ?_⟩
        · cases hj : s.calls[j]? with
          | none => rw [next_step_of_none hj, hi]
          | some d =>
              rw [next_step_of_some hj]
              show (s.calls.set j _)[i]? = some c
              rw [List.getElem?_set_ne hij, hi]
        · rw [Event.isStepOf, beq_eq_false_iff_ne.mpr hij]
          exact Nat.le_refl _

/-- **Its own steps bring a call to its end**, whatever steps of others come between them. -/
theorem work_run {c : Call} (hi : s.calls[i]? = some c) {later : List Event}
    (hlater : c.work ≤ later.countP (Event.isStepOf i)) :
    ∃ c', (s.run later).calls[i]? = some c' ∧ c'.work = 0 := by
  induction later generalizing s c with
  | nil => exact ⟨c, hi, Nat.le_zero.mp hlater⟩
  | cons event rest ih =>
      obtain ⟨c', hi', hwork⟩ := work_next hi event
      rw [List.countP_cons] at hlater
      exact ih hi' (by omega)

/-- **A call that makes enough steps comes to its verdict.** -/
theorem verdict?_of_steps {events later : List Event} {schema document : Value}
    (h : (asked events)[i]? = some (schema, document))
    (hlater : 3 * (findings policy schema .root document).length ≤
      later.countP (Event.isStepOf i)) :
    (after policy (events ++ later)).verdict? i =
      some ((Validator.new policy).validate schema document).1 := by
  have hasked : (asked (events ++ later))[i]? = some (schema, document) := by
    obtain ⟨hlt, -⟩ := List.getElem?_eq_some_iff.mp h
    rw [asked_append, List.getElem?_append_left hlt, h]
  obtain ⟨c, hc, rfl, rfl⟩ := call_of_asked h policy
  have hsound := (after_sound policy events).calls c (List.mem_of_getElem? hc)
  obtain ⟨c', hc', hdone⟩ := work_run hc (Nat.le_trans hsound.work_le hlater)
  have hrun : after policy (events ++ later) = (after policy events).run later := List.foldl_append
  have hverdict : (after policy (events ++ later)).verdict? i = some ⟨c'.violations⟩ := by
    rw [hrun, verdict?, hc', Option.bind_some, Call.verdict?_of_work hdone]
  rw [hverdict, ← verdict?_of_asked hasked hverdict]

end Session

end JsonSchema
