import JsonSchema.Schema.PatternCache

/-!
# `JsonSchema.Proofs.Schema.PatternCache` — validators that have been used before

A validator remembers what became of each pattern it has met, so the verdict on a document is computed
from the cache as well as from schema and document. A cache that started empty only holds what
compilation gives, and then the verdict is that of `validate`, which knows no cache.

## Contents
- **Faithful caches.** `PatternCache.Faithful`, kept by `compile`, `settleAll` and `Validator.validate`.
- **Validators in use.** `Validator.after`, and `validate_after`: earlier calls leave no mark.
-/

namespace JsonSchema

/-! ## Faithful caches -/

namespace PatternCache

variable {c : PatternCache}

/-- Every outcome that is remembered is the one that compilation gives. -/
def Faithful (c : PatternCache) : Prop :=
  ∀ source outcome, c.find? source = some outcome → outcome = Pattern.compile? source

theorem faithful_empty : empty.Faithful := fun _ _ h => absurd h (by simp [empty, find?])

theorem faithful_store (hc : c.Faithful) (source : String) :
    (c.store source (Pattern.compile? source)).Faithful := by
  intro asked outcome h
  unfold find? store at h
  rw [List.lookup_cons] at h
  by_cases hs : asked = source
  · rw [beq_iff_eq.mpr hs] at h
    rw [hs, ← Option.some.inj h]
  · rw [beq_eq_false_iff_ne.mpr hs] at h
    exact hc asked outcome h

/-- A faithful cache answers as compilation does, and is faithful afterwards. -/
theorem compile_of_faithful (hc : c.Faithful) (source : String) :
    (c.compile source).1 = Pattern.compile? source ∧ (c.compile source).2.Faithful := by
  unfold compile
  cases h : c.find? source with
  | none => exact ⟨rfl, faithful_store hc source⟩
  | some outcome => exact ⟨hc source outcome h, hc⟩

end PatternCache

theorem settleAll_of_faithful {c : PatternCache} (hc : c.Faithful) (fs : List Finding) :
    (settleAll c fs).1 = fs.filterMap (Finding.settle Pattern.compile?) ∧
      (settleAll c fs).2.Faithful := by
  induction fs generalizing c with
  | nil => exact ⟨rfl, hc⟩
  | cons f rest ih =>
      cases f with
      | breach path b =>
          obtain ⟨hrest, hfaithful⟩ := ih hc
          exact ⟨by simp [settleAll, hrest, Finding.settle], hfaithful⟩
      | test path text source =>
          obtain ⟨houtcome, hafter⟩ := c.compile_of_faithful hc source
          obtain ⟨hrest, hfaithful⟩ := ih hafter
          refine ⟨?_, hfaithful⟩
          simp only [settleAll, List.filterMap_cons, Finding.settle]
          rw [hrest, houtcome]
          cases Finding.judge path text source (Pattern.compile? source) <;> rfl

/-! ## Validators in use -/

namespace Validator

/-- The validator of a policy after it has judged some documents, each given with its schema. -/
def after (policy : FormatPolicy) (calls : List (Value × Value)) : Validator :=
  calls.foldl (fun v call => (v.validate call.1 call.2).2) (new policy)

/-- A faithful validator gives the verdict that needs no cache, and stays faithful. -/
theorem validate_of_faithful {v : Validator} (hv : v.cache.Faithful) (schema document : Value) :
    (v.validate schema document).1 = JsonSchema.validate v.policy schema document ∧
      (v.validate schema document).2.policy = v.policy ∧
        (v.validate schema document).2.cache.Faithful := by
  obtain ⟨hviolations, hfaithful⟩ :=
    settleAll_of_faithful hv (findings v.policy schema .root document)
  exact ⟨congrArg Verdict.mk hviolations, rfl, hfaithful⟩

theorem after_faithful (policy : FormatPolicy) (calls : List (Value × Value)) :
    (after policy calls).policy = policy ∧ (after policy calls).cache.Faithful := by
  -- the first call leaves a filled cache, so the induction is over every faithful validator
  suffices h : ∀ v : Validator, v.policy = policy → v.cache.Faithful →
      let w := calls.foldl (fun v call => (v.validate call.1 call.2).2) v
      w.policy = policy ∧ w.cache.Faithful from h (new policy) rfl PatternCache.faithful_empty
  induction calls with
  | nil => exact fun v hp hf => ⟨hp, hf⟩
  | cons call rest ih =>
      intro v hp hf
      obtain ⟨-, hpolicy, hfaithful⟩ := validate_of_faithful hf call.1 call.2
      exact ih _ (hpolicy.trans hp) hfaithful

/-- **Earlier calls leave no mark on a verdict.** -/
@[simp] theorem validate_after (policy : FormatPolicy) (calls : List (Value × Value))
    (schema document : Value) :
    ((after policy calls).validate schema document).1 =
      JsonSchema.validate policy schema document := by
  obtain ⟨hpolicy, hfaithful⟩ := after_faithful policy calls
  rw [(validate_of_faithful hfaithful schema document).1, hpolicy]

end Validator

end JsonSchema
