import JsonSchema.Proofs.Batch.Cancellation
import JsonSchema.Proofs.Schema.SharedCache

/-!
# `JsonSchema.Proofs.Batch.Independence` — no verdict depends on what else has been validated

A validator is called many times, by many workers, and all its calls read and write one cache. Even so
each verdict is the one that a new validator comes to, whatever the calls before it and however the steps
of the calls beside it come between its own. So the outcome for an input is the one that a validator which
meets no other input comes to.

## Contents
- **Inputs.** `Setting.alone`: the outcome for an input by a validator of its own.
- **Independence.** `sharedCache_transparent`.
-/

namespace JsonSchema

/-! ## Inputs -/

/-- The outcome for an input by a validator that meets no other input. -/
def Setting.alone (σ : Setting) (input : InputSource) : Outcome :=
  ((Validator.new σ.policy).judge σ.schema input (input.document (σ.contents input))).1

/-- The validator that judges all inputs comes to the outcome that one for each input would come to. -/
theorem Setting.outcome_eq_alone (σ : Setting) : σ.outcome = σ.alone := by
  funext input
  have hnew := (Validator.new σ.policy).judge_of_fit (Validator.fit_new σ.policy) σ.schema input
    (input.document (σ.contents input))
  exact hnew.1.symm

/-! ## Independence -/

/-- **A shared cache makes no difference.** After any calls, and at every moment of every interleaving of
calls, each outcome in the cache is what compilation gives for its pattern. A call that follows others
comes to the verdict of a new validator; the steps that it makes are those of a call with no other beside
it. A call with others beside it comes to no verdict but that of a new validator either, and it does come
to it if it goes on to make its steps. A batch that is not cancelled has for each input the outcome that
it would have without the others. -/
theorem sharedCache_transparent (policy : FormatPolicy) :
    (∀ calls schema document,
      (Validator.after policy calls).cache.Faithful ∧
        ((Validator.after policy calls).validate schema document).1 =
          ((Validator.new policy).validate schema document).1 ∧
        let v := Validator.after policy calls
        let steps := 3 * (findings policy schema .root document).length
        let x := (Call.start policy schema document).alone steps v.cache
        x.1.verdict? = some (v.validate schema document).1 ∧ x.2 = (v.validate schema document).2.cache) ∧
    (∀ events,
      (Session.after policy events).cache.Faithful ∧
        ∀ i schema document, (Session.asked events)[i]? = some (schema, document) →
          (∀ verdict, (Session.after policy events).verdict? i = some verdict →
            verdict = ((Validator.new policy).validate schema document).1) ∧
          ∀ later, 3 * (findings policy schema .root document).length ≤
              later.countP (Session.Event.isStepOf i) →
            (Session.after policy (events ++ later)).verdict? i =
              some ((Validator.new policy).validate schema document).1) ∧
    (∀ σ : Setting, σ.policy = policy → σ.Latched → ∀ inputs,
      (∀ jobs, ∃ t, σ.judgeAll jobs inputs ⟨[], 0⟩ =
        (if σ.token t then .error .cancelled else .ok (inputs.map σ.alone),
          { t with looks := t.looks + 1 })) ∧
      ∀ workers > 0, ∀ schedule,
        ((σ.run.inPool workers schedule inputs).run' (.new policy) ⟨[], 0⟩).1 =
          if σ.token (σ.arrival workers inputs schedule).trace then .error .cancelled
          else .ok (inputs.map σ.alone)) := by
  refine ⟨fun calls schema document => ⟨(Validator.after_faithful policy calls).2, ?_, ?_⟩,
    fun events => ⟨(Session.after_sound policy events).faithful, fun i schema document hasked =>
      ⟨fun verdict hverdict => Session.verdict?_of_asked hasked hverdict,
        fun later hlater => Session.verdict?_of_steps hasked hlater⟩⟩,
    fun σ hpolicy hlatched inputs => ?_⟩
  · -- a new validator is one after no calls
    have hnew := Validator.validate_after policy [] schema document
    rw [Validator.validate_after]
    exact hnew.symm
  · have hsteps := Call.validate_eq_alone (Validator.after policy calls) schema document
    rw [(Validator.after_faithful policy calls).1] at hsteps
    exact hsteps
  · subst hpolicy
    rw [← σ.outcome_eq_alone]
    refine ⟨fun jobs => Setting.judgeAll_concludes hlatched jobs inputs, fun workers hpos schedule => ?_⟩
    rw [Setting.inPool_concludes hlatched hpos]
    rfl

/-- A schema for codes, by a pattern. -/
def codeSchema : Value := .object [("pattern", .string "^T")]

/-- Two calls look the pattern up before either has stored it, so that both compile it and store it. -/
def raceEvents : List Session.Event :=
  [.call codeSchema (.string "T-1"), .call codeSchema (.string "X-1"),
    .step 0, .step 1, .step 0, .step 1, .step 0]

/-- Two codes that are judged by the same pattern. -/
def codes : Setting where
  contents input := if input = .file "a.json" then .ok "\"T-1\"" else .ok "\"X-1\""
  token _ := false
  policy := ⟨.empty, false⟩
  schema := codeSchema

theorem sharedCache_transparent_codes :
    (Session.after codes.policy raceEvents).cache.entries.length = 1 ∧
      (Session.after codes.policy (raceEvents ++ [.step 1])).cache.entries.length = 2 ∧
      (Session.after codes.policy raceEvents).verdict? 0 =
        some ((Validator.new codes.policy).validate codeSchema (.string "T-1")).1 ∧
      (Session.after codes.policy (raceEvents ++ [.step 1, .step 1, .step 1])).verdict? 1 =
        some ⟨[⟨[], "pattern", "\"X-1\" does not match pattern \"^T\""⟩]⟩ ∧
      codes.policy = ⟨.empty, false⟩ ∧ codes.Latched ∧
      ∃ t, codes.judgeAll 2 [.file "a.json", .file "b.json"] ⟨[], 0⟩ =
        (.ok ([.file "a.json", .file "b.json"].map codes.alone), t) := by
  obtain ⟨-, hsessions, hbatches⟩ := sharedCache_transparent codes.policy
  have hlatched : codes.Latched := fun _ _ _ hset => absurd hset Bool.false_ne_true
  have hfirst : ∃ verdict, (Session.after codes.policy raceEvents).verdict? 0 = some verdict :=
    Option.isSome_iff_exists.mp (by decide +kernel)
  refine ⟨by decide +kernel, by decide +kernel, ?_, ?_, rfl, hlatched, ?_⟩
  · obtain ⟨verdict, hverdict⟩ := hfirst
    rw [hverdict, ((hsessions raceEvents).2 0 _ _ rfl).1 verdict hverdict]
  · rw [((hsessions raceEvents).2 1 _ _ rfl).2 [.step 1, .step 1, .step 1] (by decide +kernel)]
    decide +kernel
  · obtain ⟨t, hend⟩ := (hbatches codes rfl hlatched [.file "a.json", .file "b.json"]).1 2
    exact ⟨_, hend⟩

end JsonSchema
