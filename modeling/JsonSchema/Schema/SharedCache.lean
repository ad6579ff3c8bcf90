import JsonSchema.Schema.PatternCache

/-!
# `JsonSchema.Schema.SharedCache` — validations that use one cache at the same time

The calls of a validator share its cache and nothing else. A call looks a pattern up, compiles it if it
is not known, and stores the outcome. Each of these is a step of its own, and steps of other calls may
come between them, so that two calls may compile one pattern and both store what they have.

## Contents
- **Calls.** `Task`, `Call`, its `step`, and `Call.alone`, in which no other call comes between.
- **Sessions.** `Session` with its events, `Session.after`, `Session.verdict?`, and `asked`.
-/

namespace JsonSchema

/-! ## Calls -/

/-- What a call does next: go on to the next finding, compile a pattern that was not known when it was
looked up, or store the outcome for one. -/
inductive Task where
  | settle
  | compile (path : Path) (text source : String)
  | store (path : Path) (text source : String) (outcome : Option Pattern)

/-- A validation under way. -/
structure Call where
  schema : Value
  document : Value
  task : Task
  /-- The findings that it has not gone on to. -/
  left : List Finding
  /-- The violations so far, in order. -/
  violations : List Violation

namespace Call

/-- A validation that has just begun. -/
def start (policy : FormatPolicy) (schema document : Value) : Call :=
  ⟨schema, document, .settle, findings policy schema .root document, []⟩

/-- The call after a finding that makes a violation or none. -/
def report (c : Call) (violation : Option Violation) : Call :=
  { c with task := .settle, violations := c.violations ++ violation.toList }

/-- The next step of a call, and the cache after it. A call with nothing left to do stays as it is. -/
def step (cache : PatternCache) (c : Call) : Call × PatternCache :=
  match c.task with
  | .compile path text source =>
    ({ c with task := .store path text source (Pattern.compile? source) }, cache)
  | .store path text source outcome =>
    (c.report (Finding.judge path text source outcome), cache.store source outcome)
  | .settle =>
    match c.left with
    | [] => (c, cache)
    | .breach path b :: rest => ({ c with left := rest }.report (some (.ofBreach path b)), cache)
    | .test path text source :: rest =>
      match cache.find? source with
      | some outcome => ({ c with left := rest }.report (Finding.judge path text source outcome), cache)
      | none => ({ c with left := rest, task := .compile path text source }, cache)

/-- The verdict of a call that has nothing left to do. -/
def verdict? (c : Call) : Option Verdict :=
  match c.task, c.left with
  | .settle, [] => some ⟨c.violations⟩
  | _, _ => none

/-- A number of steps of a call, no other call coming between. -/
def alone : Nat → PatternCache → Call → Call × PatternCache
  | 0, cache, c => (c, cache)
  | n + 1, cache, c => alone n (c.step cache).2 (c.step cache).1

end Call

/-! ## Sessions -/

/-- What happens to a validator: it is called, or one of its calls makes a step. -/
inductive Session.Event where
  | call (schema document : Value)
  | step (call : Nat)

/-- Whether an event is a step of a call. -/
def Session.Event.isStepOf (i : Nat) : Event → Bool
  | .call _ _ => false
  | .step j => j == i

/-- A validator in use, with all its calls in the order in which they began. -/
structure Session where
  policy : FormatPolicy
  cache : PatternCache
  calls : List Call

namespace Session

/-- What an event makes of a session. -/
def next (s : Session) : Event → Session
  | .call schema document => { s with calls := s.calls ++ [.start s.policy schema document] }
  | .step i =>
    match s.calls[i]? with
    | none => s
    | some c => { s with calls := s.calls.set i (c.step s.cache).1, cache := (c.step s.cache).2 }

/-- What events make of a session, one after the other. -/
def run (s : Session) (events : List Event) : Session := events.foldl next s

/-- A new validator after some events. -/
def after (policy : FormatPolicy) (events : List Event) : Session :=
  run ⟨policy, .empty, []⟩ events

/-- The verdict of a call, if the call has come to it. -/
def verdict? (s : Session) (i : Nat) : Option Verdict := s.calls[i]?.bind Call.verdict?

/-- What the calls among some events are about: schema and document. -/
def asked (events : List Event) : List (Value × Value) :=
  events.filterMap fun event =>
    match event with
    | .call schema document => some (schema, document)
    | .step _ => none

end Session

end JsonSchema
