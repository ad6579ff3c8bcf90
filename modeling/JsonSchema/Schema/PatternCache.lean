import JsonSchema.Schema.Validation

/-!
# `JsonSchema.Schema.PatternCache` — compiling each pattern once

Validations that share a cache compile a pattern the first time it is asked for, and remember the
outcome by the text of the pattern, also where it is no pattern at all.

## Contents
- **Cache.** `PatternCache`, `find?`, `store`, `compile` (look up, compile on a miss, store).
- **Validation.** `settleAll`, `Validator`, `Validator.validate`.
-/

namespace JsonSchema

/-- Outcomes of compilation by the text of the pattern. -/
structure PatternCache where
  entries : List (String × Option Pattern)

namespace PatternCache

/-- Nothing has been compiled. -/
def empty : PatternCache := ⟨[]⟩

/-- The outcome for a pattern, if it is known. -/
def find? (c : PatternCache) (source : String) : Option (Option Pattern) :=
  c.entries.lookup source

/-- Remember an outcome. -/
def store (c : PatternCache) (source : String) (outcome : Option Pattern) : PatternCache :=
  ⟨(source, outcome) :: c.entries⟩

/-- The outcome for a pattern, and the cache that knows it. -/
def compile (c : PatternCache) (source : String) : Option Pattern × PatternCache :=
  match c.find? source with
  | some outcome => (outcome, c)
  | none =>
    let outcome := Pattern.compile? source
    (outcome, c.store source outcome)

end PatternCache

/-- The violations that findings make, and the cache after them. -/
def settleAll : PatternCache → List Finding → List Violation × PatternCache
  | c, [] => ([], c)
  | c, .breach path b :: rest =>
    let (violations, c) := settleAll c rest
    (.ofBreach path b :: violations, c)
  | c, .test path text source :: rest =>
    let (outcome, c) := c.compile source
    let (violations, c) := settleAll c rest
    ((Finding.judge path text source outcome).toList ++ violations, c)

/-- A validator: its formats, and the patterns it has met. -/
structure Validator where
  policy : FormatPolicy
  cache : PatternCache

namespace Validator

/-- A validator that has met no pattern. -/
def new (policy : FormatPolicy) : Validator := ⟨policy, .empty⟩

/-- The verdict on a document, and the validator after it. -/
def validate (v : Validator) (schema document : Value) : Verdict × Validator :=
  let (violations, cache) := settleAll v.cache (findings v.policy schema .root document)
  (⟨violations⟩, { v with cache := cache })

end Validator

end JsonSchema
