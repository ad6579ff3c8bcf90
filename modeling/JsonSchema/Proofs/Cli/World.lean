import JsonSchema.Cli.Program
import JsonSchema.Proofs.Batch.Cancellation
import JsonSchema.Proofs.Cli.Related

/-!
# `JsonSchema.Proofs.Cli.World` — the program seen from outside

A world is all that the program meets: files and a standard input that stay as they are, a terminal,
workers that take turns as they like, and someone who may set the cancellation token at any moment. What
can be seen of the program is a list of events: what it asks of the files, when it looks at the token, and
what it writes. A look shows the token as it is at that moment, and a token that has been set stays set; so
it is enough to know how many looks find it unset.

An interrupt is another matter. It may come after any event, and then the program is not followed further:
what is seen is what has been seen by then, and that the token is set. What the work that has been abandoned
may still do before the process is gone is left open.

## Contents
- **Events.** `Question`, `Event`, `Console`, and what has been written, `Console.out`.
- **Worlds.** `World`, its `around` without interrupts, and `interruptedAt` a moment.
- **Asking.** `asking`: questions are answered by the files, and leave no other trace.
- **Judging.** `World.judged`: what a batch returns in a world; `judge_shows` and `judged_eq`.
-/

namespace JsonSchema.Cli

/-! ## Events -/

/-- What can be asked of the files and of standard input. -/
inductive Question where
  | text (path : String)
  | leads (path : String)
  | isDirectory (path : String)
  | names (path : String)
  | standardInput
deriving DecidableEq

/-- What can be seen of the program: it asks a question, looks at the token, sets it, or writes to its output
or to its errors. -/
inductive Event where
  | asked (question : Question)
  | looked
  | cancelled
  | wrote (text : String)
  | complained (text : String)
deriving DecidableEq

/-- What an event adds to the output. -/
def Event.output : Event → String
  | .wrote text => text
  | .asked _ | .looked | .cancelled | .complained _ => ""

/-- All that has been seen of the program. -/
structure Console where
  events : List Event

namespace Console

/-- Nothing has been seen. -/
def start : Console := ⟨[]⟩

/-- One event more. -/
def add (c : Console) (e : Event) : Console := ⟨c.events ++ [e]⟩

/-- What has been written to the output. -/
def out (c : Console) : String := String.join (c.events.map Event.output)

/-- How often the program has looked at the token. -/
def looks (c : Console) : Nat := c.events.count .looked

variable {c : Console}

theorem out_add (e : Event) : (c.add e).out = c.out ++ e.output := by
  simp [out, add]

theorem looks_add (e : Event) : (c.add e).looks = c.looks + if e = .looked then 1 else 0 := by
  simp [looks, add, List.count_singleton]

/-- Events that write nothing to the output leave it as it is. -/
theorem out_append {events : List Event} (h : ∀ e ∈ events, e.output = "") :
    out ⟨c.events ++ events⟩ = c.out := by
  induction events generalizing c with
  | nil => rw [List.append_nil]
  | cons e rest ih =>
      obtain ⟨hfirst, hrest⟩ := List.forall_mem_cons.mp h
      have hadd : (c.add e).out = c.out := by rw [out_add, hfirst, String.append_empty]
      rw [List.append_cons, ← hadd]
      exact ih hrest

theorem looks_append {events : List Event} (h : .looked ∉ events) :
    looks ⟨c.events ++ events⟩ = c.looks := by
  rw [looks, List.count_append, List.count_eq_zero.mpr h, Nat.add_zero, looks]

end Console

/-! ## Worlds -/

/-- All that the program meets. -/
structure World where
  files : FileSystem Id
  standardInput : Except FileFault String
  color : Bool
  schedule : List Turn
  /-- How many looks find the token unset; `none` if all do. -/
  patience : Option Nat

namespace World

/-- An event, and what the program gets from it. -/
def note {α : Type} (e : Event) (answer : α) : StateM Console α := fun c => (answer, c.add e)

variable (w : World)

/-- Whether the token is set after a number of looks. -/
def isSet (looks : Nat) : Bool := w.patience.any (· ≤ looks)

/-- The surroundings that a world is, if no interrupt comes. -/
def around : Surroundings (StateM Console) where
  files := {
    read := fun path => note (.asked (.text path)) (w.files.read path)
    leads := fun path => note (.asked (.leads path)) (w.files.leads path)
    isDirectory := fun path => note (.asked (.isDirectory path)) (w.files.isDirectory path)
    names := fun path => note (.asked (.names path)) (w.files.names path) }
  standardInput := note (.asked .standardInput) w.standardInput
  write text := note (.wrote text) ()
  complain text := note (.complained text) ()
  color := w.color
  cancelled := fun c => (w.isSet c.looks, c.add .looked)
  cancel := note .cancelled ()
  schedule := w.schedule

/-- A shop with a schema, a document that satisfies it, one that does not, and a directory. -/
def shop : World where
  files := {
    read := fun path =>
      if path = "schema.json" then .ok "\x7b\"type\": \"string\"\x7d"
      else if path = "a.json" then .ok "\"tea\""
      else if path = "b.json" then .ok "5"
      else if path = "old" then .error .isDirectory
      else .error .notFound
    leads := fun path => decide (path ∈ [".", "schema.json", "a.json", "b.json", "old"])
    isDirectory := fun path => decide (path ∈ [".", "old"])
    names := fun path => if path = "." then ["schema.json", "a.json", "b.json", "old"] else [] }
  standardInput := .ok ""
  color := true
  schedule := []
  patience := none

/-! ## Asking -/

/-- A computation goes on with what its first part returns, where its first part leaves the console. -/
theorem bind_of_eq {α β : Type} {x : StateM Console α} {a : α} {c c' : Console} (h : x c = (a, c'))
    (f : α → StateM Console β) : (x >>= f) c = f a c' := by
  show f (x c).1 (x c).2 = f a c'
  rw [h]

/-- A computation asks questions, gets the answers that the files have for it, and does nothing else. -/
def asking : Related Id (StateM Console) where
  rel x y := ∀ c, ∃ questions : List Question, y c = (x, ⟨c.events ++ questions.map .asked⟩)
  pure a c := ⟨[], by rw [List.map_nil, List.append_nil]; rfl⟩
  bind := by
    intro α β x y f g h h' c
    obtain ⟨first, hfirst⟩ := h c
    obtain ⟨second, hsecond⟩ := h' x ⟨c.events ++ first.map .asked⟩
    refine ⟨first ++ second, ?_⟩
    show g (y c).1 (y c).2 = _
    rw [hfirst, List.map_append, ← List.append_assoc]
    exact hsecond

theorem filesAlike : FilesAlike asking w.files w.around.files where
  leads path _ := ⟨[.leads path], rfl⟩
  isDirectory path _ := ⟨[.isDirectory path], rfl⟩
  names path _ := ⟨[.names path], rfl⟩

theorem loadSchema_around (path : String) (c : Console) :
    loadSchema w.around.files path c =
      (loadSchema w.files path, c.add (.asked (.text path))) := by
  have hread : w.around.files.read path c =
      (w.files.read path, c.add (.asked (.text path))) := rfl
  rw [loadSchema, bind_of_eq hread, loadSchema]
  cases w.files.read path with
  | error fault => rfl
  | ok text => rfl

/-! ## Judging -/

/-- The text of an input. -/
def contents (input : InputSource) : Except FileFault String := input.text w.files w.standardInput

/-- What a run in the world is given. -/
def setting (schema : Value) (strict : Bool) : Setting where
  contents := w.contents
  token t := w.isSet t.looks
  policy := policy strict
  schema := schema

/-- What a batch in the world returns, and its trace. -/
def judged (schema : Value) (strict : Bool) (jobs : Nat) (inputs : List InputSource) :
    Except BatchError (List Outcome) × Trace :=
  ((w.setting schema strict).run.batch jobs inputs w.schedule).run' (.new (policy strict)) ⟨[], 0⟩

/-- A console that shows as many looks as a trace has, and no report yet. -/
structure Shows (c : Console) (t : Trace) : Prop where
  out : c.out = ""
  looks : c.looks = t.looks

section Shows

variable {c : Console} {t : Trace} (h : Shows c t)
include h

/-- A look is shown. -/
theorem Shows.look : Shows (c.add .looked) { t with looks := t.looks + 1 } where
  out := by rw [Console.out_add, h.out]; rfl
  looks := by rw [Console.looks_add, if_pos rfl, h.looks]

/-- An event that is neither a look nor a report is not shown. -/
theorem Shows.add {e : Event} (hout : e.output = "") (hlooked : e ≠ .looked)
    {told : List (Nat × Nat)} : Shows (c.add e) ⟨told, t.looks⟩ where
  out := by rw [Console.out_add, h.out, hout, String.append_empty]
  looks := by rw [Console.looks_add, if_neg hlooked, h.looks, Nat.add_zero]

/-- Questions are not shown. -/
theorem Shows.asked (questions : List Question) : Shows ⟨c.events ++ questions.map .asked⟩ t where
  out := (Console.out_append (List.forall_mem_map.mpr fun _ _ => rfl)).trans h.out
  looks := (Console.looks_append (by simp)).trans h.looks

end Shows

/-- A computation returns what a watched one returns, and its console goes on to show the trace. -/
def showing : Related Watched (StateM Console) where
  rel x y := ∀ t c, Shows c t → (y c).1 = (x t).1 ∧ Shows (y c).2 (x t).2
  pure a t c h := ⟨rfl, h⟩
  bind := by
    intro α β x y f g h h' t c hshows
    obtain ⟨hresult, hafter⟩ := h t c hshows
    show (g (y c).1 (y c).2).1 = (f (x t).1 (x t).2).1 ∧ Shows (g (y c).1 (y c).2).2 (f (x t).1 (x t).2).2
    rw [hresult]
    exact h' _ _ _ hafter

/-- **A batch on a console** returns what it returns when it is watched, whether or not it tells of its
progress, and writes no report. -/
theorem judge_shows (schema : Value) (strict progress : Bool) (jobs : Nat) (inputs : List InputSource)
    {c : Console} (hstart : Shows c ⟨[], 0⟩) :
    (w.around.judge schema strict progress jobs inputs c).1 = (w.judged schema strict jobs inputs).1 ∧
      Shows (w.around.judge schema strict progress jobs inputs c).2
        (w.judged schema strict jobs inputs).2 := by
  have htext : ∀ input, showing.rel (pure (w.contents input) : Watched (Except FileFault String))
      (input.text w.around.files w.around.standardInput) := by
    intro input t c hshows
    cases input with
    | standardInput => exact ⟨rfl, hshows.add (e := .asked .standardInput) rfl nofun⟩
    | file path => exact ⟨rfl, hshows.add (e := .asked (.text path)) rfl nofun⟩
  have hreport : ∀ done total, showing.rel (Watched.tell done total)
      (if progress = true then
        w.around.complain ("[" ++ toString done ++ "/" ++ toString total ++ "]\n")
      else pure ()) := by
    intro done total t c hshows
    cases progress with
    | false => exact ⟨rfl, hshows.out, hshows.looks⟩
    | true => exact ⟨rfl, hshows.add (e := .complained _) rfl nofun⟩
  have hcancelled : showing.rel (Watched.look (w.setting schema strict).token) w.around.cancelled := by
    intro t c hshows
    exact ⟨congrArg w.isSet hshows.looks, hshows.look⟩
  exact showing.judgeAll htext hreport hcancelled (policy strict) schema jobs inputs w.schedule _ c hstart

end World
end JsonSchema.Cli
