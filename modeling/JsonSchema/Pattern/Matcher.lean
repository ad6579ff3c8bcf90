import JsonSchema.Pattern.Expr

/-!
# `JsonSchema.Pattern.Matcher` — where a pattern matches in a text

Matching is given by the list of all ways to match from a place, the preferred one first. Two ways
that end alike count once, so the list is never longer than there are places to end at, unless
groups are referred to.

## Contents
- **Places.** `Place` (a position and what the groups hold), `charBefore?`, `charAt?`.
- **Ways.** `distinct`, `reach` (repeated steps), `Expr.ways`.
- **Search.** `Expr.foundIn`.
-/

namespace JsonSchema.Pattern

/-! ## Places -/

/-- The start and the end of a group's text, once it has them. -/
structure Span where
  index : Nat
  start : Nat
  stop : Option Nat
deriving DecidableEq

/-- A position in the text, and the groups that have been entered. -/
structure Place where
  pos : Nat
  groups : List Span
deriving DecidableEq

namespace Place

/-- What a group holds. -/
def group? (p : Place) (index : Nat) : Option Span := p.groups.find? fun s => s.index == index

/-- Set what a group holds. -/
def setGroup (p : Place) (span : Span) : Place :=
  { p with groups := span :: p.groups.filter fun s => s.index != span.index }

/-- Enter a group; its former end stays until the group is left. -/
def enter (p : Place) (index : Nat) : Place :=
  p.setGroup ⟨index, p.pos, (p.group? index).bind Span.stop⟩

/-- Leave a group. -/
def leave (p : Place) (index : Nat) : Place :=
  match p.group? index with
  | some span => p.setGroup { span with stop := some p.pos }
  | none => p

end Place

/-- The character at a position. -/
def charAt? (text : Array Char) (pos : Nat) : Option Char := text[pos]?

/-- The character before a position. -/
def charBefore? (text : Array Char) (pos : Nat) : Option Char :=
  if pos = 0 then none else text[pos - 1]?

/-- Whether a character is there and is part of a word. -/
def isWord (c : Option Char) : Bool := c.any fun c => CharSet.word.contains c.toNat

/-! ## Ways -/

/-- The first occurrence of each. -/
def distinct {α : Type} [BEq α] (xs : List α) : List α :=
  (xs.foldl (fun seen x => if seen.contains x then seen else x :: seen) []).reverse

/-- All that repeated steps reach from some starts, added to what has been seen, last first. A
start stands after what it leads to, or before it when fewer steps are preferred. The fuel bounds
the number of steps in a row. -/
def reach {α : Type} [BEq α] (next : α → List α) (greedy : Bool) :
    Nat → List α → List α → List α
  | 0, _, seen => seen
  | fuel + 1, starts, seen =>
    starts.foldl (fun seen x =>
      if seen.contains x then seen
      else if greedy then x :: reach next greedy fuel (next x) seen
      else reach next greedy fuel (next x) (x :: seen)) seen

/-- A step taken a number of times. -/
def times (next : Place → List Place) : Nat → List Place → List Place
  | 0, ps => ps
  | n + 1, ps => times next n (distinct (ps.flatMap next))

/-- A step taken any number of times, each step moving on. -/
def manyTimes (next : Place → List Place) (greedy : Bool) (size : Nat) (p : Place) : List Place :=
  let onward := fun q : Place => (next q).filter fun r => q.pos < r.pos
  (reach onward greedy (size + 1 - p.pos) [p] []).reverse

/-- A step taken up to a number of times. -/
def upToTimes (next : Place → List Place) (greedy : Bool) (n : Nat) (p : Place) : List Place :=
  let onward := fun (q, left) =>
    if left = 0 then [] else (next q).map fun r => (r, left - 1)
  distinct ((reach onward greedy (n + 1) [(p, n)] []).reverse.map Prod.fst)

/-- Whether a span of the text stands at a position again. -/
def repeatsAt (text : Array Char) (start stop pos : Nat) : Bool :=
  start ≤ stop && text.extract start stop == text.extract pos (pos + (stop - start))

namespace Expr

/-- All ways to match from a place, the preferred one first. -/
def ways (text : Array Char) : Expr → Place → List Place
  | .empty, p => [p]
  | .set s, p =>
    match charAt? text p.pos with
    | some c => if s.contains c.toNat then [{ p with pos := p.pos + 1 }] else []
    | none => []
  | .textStart, p => if p.pos = 0 then [p] else []
  | .textEnd, p => if p.pos = text.size then [p] else []
  | .lineStart, p => if p.pos = 0 || charBefore? text p.pos == some '\n' then [p] else []
  | .lineEnd, p => if p.pos = text.size || charAt? text p.pos == some '\n' then [p] else []
  | .wordStart, p =>
    if !isWord (charBefore? text p.pos) && isWord (charAt? text p.pos) then [p] else []
  | .wordEnd, p =>
    if isWord (charBefore? text p.pos) && !isWord (charAt? text p.pos) then [p] else []
  | .searchStart, p => if p.pos = 0 then [p] else []
  | .seq a b, p => distinct ((a.ways text p).flatMap (b.ways text))
  | .alt a b, p => distinct (a.ways text p ++ b.ways text p)
  | .repeated e low high greedy, p =>
    let more :=
      match high with
      | none => manyTimes (e.ways text) greedy text.size
      | some high => upToTimes (e.ways text) greedy (high - low)
    distinct ((times (e.ways text) low [p]).flatMap more)
  | .group i e, p => (e.ways text (p.enter i)).map fun q => q.leave i
  | .backref i, p =>
    match p.group? i with
    | some ⟨_, start, some stop⟩ =>
      if repeatsAt text start stop p.pos then [{ p with pos := p.pos + (stop - start) }] else []
    | _ => []
  | .hasGroup i, p =>
    match p.group? i with
    | some ⟨_, _, some _⟩ => [p]
    | _ => []
  | .atomic e, p => (e.ways text p).take 1
  | .lookAhead negative e, p =>
    match e.ways text p, negative with
    | [], true => [p]
    | q :: _, false => [{ q with pos := p.pos }]
    | _, _ => []
  | .lookBehind negative width e, p =>
    let found := if width ≤ p.pos then e.ways text { p with pos := p.pos - width } else []
    match found, negative with
    | [], true => [p]
    | q :: _, false => [{ q with pos := p.pos }]
    | _, _ => []
  | .ifElse c a b, p =>
    match c.ways text p with
    | q :: _ => a.ways text q
    | [] => b.ways text p

/-! ## Search -/

/-- Whether the pattern matches somewhere in a text. -/
def foundIn (text : Array Char) (e : Expr) : Bool :=
  (List.range (text.size + 1)).any fun pos => !(e.ways text ⟨pos, []⟩).isEmpty

end Expr

end JsonSchema.Pattern
