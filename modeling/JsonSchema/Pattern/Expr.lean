import JsonSchema.Pattern.CharSet

/-!
# `JsonSchema.Pattern.Expr` — patterns as expressions

## Contents
- **Expressions.** `Expr`.
- **Widths.** `Expr.minWidth`, `Expr.fixedWidth`: what a look behind needs to know.
- **Groups.** `Expr.keepGroups`: groups to which nothing refers hold nothing back.
- **Demands.** `Expr.demanding` (needs more than one pass over the text), `Expr.weight` (the room
  that it takes), `Expr.wellBounded`.
-/

namespace JsonSchema.Pattern

/-- A pattern. -/
inductive Expr where
  | empty
  /-- any one character of a set -/
  | set (s : CharSet)
  | textStart
  | textEnd
  | lineStart
  | lineEnd
  /-- the start of a word -/
  | wordStart
  /-- the end of a word -/
  | wordEnd
  /-- the place where the search began -/
  | searchStart
  | seq (a b : Expr)
  | alt (a b : Expr)
  /-- at least `low` and at most `high` times, more or fewer being tried first -/
  | repeated (e : Expr) (low : Nat) (high : Option Nat) (greedy : Bool)
  | group (index : Nat) (e : Expr)
  /-- the text of a group once more -/
  | backref (index : Nat)
  /-- whether a group has been matched -/
  | hasGroup (index : Nat)
  /-- the first way to match, and no other -/
  | atomic (e : Expr)
  | lookAhead (negative : Bool) (e : Expr)
  /-- look at as many characters before the place as `e` is wide -/
  | lookBehind (negative : Bool) (width : Nat) (e : Expr)
  | ifElse (condition yes no : Expr)

namespace Expr

/-- Parts one after the other. -/
def seqs : List Expr → Expr
  | [] => .empty
  | [e] => e
  | e :: rest => .seq e (seqs rest)

/-- Parts to choose from. -/
def alts : List Expr → Expr
  | [] => .empty
  | [e] => e
  | e :: rest => .alt e (alts rest)

/-- Whether nothing is there. -/
def isEmpty : Expr → Bool
  | .empty => true
  | _ => false

/-- Whether a count may follow: places and looks take none. -/
def repeatable : Expr → Bool
  | .empty | .textStart | .textEnd | .lineStart | .lineEnd | .wordStart | .wordEnd => false
  | .lookAhead _ _ | .lookBehind _ _ _ => false
  | _ => true

/-! ## Widths -/

/-- The least number of characters that a match takes. -/
def minWidth : Expr → Nat
  | .set _ => 1
  | .seq a b => a.minWidth + b.minWidth
  | .alt a b => min a.minWidth b.minWidth
  | .repeated e low _ _ => e.minWidth * low
  | .group _ e => e.minWidth
  | .atomic e => e.minWidth
  | .ifElse c a b => c.minWidth + min a.minWidth b.minWidth
  | _ => 0

/-- Whether all matches take the same number of characters. -/
def fixedWidth : Expr → Bool
  | .seq a b => a.fixedWidth && b.fixedWidth
  | .alt a b => a.fixedWidth && b.fixedWidth && a.minWidth == b.minWidth
  | .repeated e low high _ => e.fixedWidth && high == some low
  | .group _ e => e.fixedWidth
  | .backref _ => false
  | .atomic e => e.fixedWidth
  | .ifElse c a b =>
    c.fixedWidth && a.fixedWidth && b.fixedWidth && c.minWidth + a.minWidth == b.minWidth
  | _ => true

/-- The choices at the top of an expression. -/
def choices : Expr → List Expr
  | .alt a b => a :: b.choices
  | e => [e]

/-- A look behind. Its width has to be fixed, or at least that of each of its choices. -/
def behind? (negative : Bool) (e : Expr) : Option Expr :=
  if e.fixedWidth then some (.lookBehind negative e.minWidth e)
  else
    let parts := e.choices
    if parts.length > 1 ∧ parts.all fixedWidth then
      let looks := parts.map fun p => lookBehind negative p.minWidth p
      some (if negative then seqs looks else alts looks)
    else none

/-! ## Groups -/

/-- The expression with those groups alone whose text is asked for. -/
def keepGroups (asked : List Nat) : Expr → Expr
  | .seq a b => .seq (a.keepGroups asked) (b.keepGroups asked)
  | .alt a b => .alt (a.keepGroups asked) (b.keepGroups asked)
  | .repeated e low high greedy => .repeated (e.keepGroups asked) low high greedy
  | .group i e => if asked.contains i then .group i (e.keepGroups asked) else e.keepGroups asked
  | .atomic e => .atomic (e.keepGroups asked)
  | .lookAhead n e => .lookAhead n (e.keepGroups asked)
  | .lookBehind n w e => .lookBehind n w (e.keepGroups asked)
  | .ifElse c a b => .ifElse (c.keepGroups asked) (a.keepGroups asked) (b.keepGroups asked)
  | e => e

/-! ## Demands -/

/-- Whether a part looks around, refers to a group, or keeps only its first match. -/
def demanding : Expr → Bool
  | .seq a b | .alt a b => a.demanding || b.demanding
  | .repeated e _ _ _ => e.demanding
  | .empty | .set _ | .textStart | .textEnd | .lineStart | .lineEnd => false
  | _ => true

/-- The greatest count that a repetition may name. -/
def maxCount : Nat := 2 ^ 32 - 1

/-- The room that an undemanding expression takes once it is compiled, its repetitions being
written out. -/
def weight : Expr → Nat
  | .set s => s.weight
  | .seq a b => a.weight + b.weight
  | .alt a b => a.weight + b.weight + 40
  | .repeated e low (some high) _ => e.weight * low + (e.weight + 40) * (high - low)
  | .repeated e low none _ => e.weight * max low 1 + 40
  | .group _ e => e.weight + 64
  | _ => 32

/-- The room that there is for a repetition. -/
def maxWeight : Nat := 10 * 2 ^ 20

/-- Whether the counts of undemanding parts are in order, and leave them small enough. -/
def wellBounded : Expr → Bool
  | .seq a b | .alt a b => a.wellBounded && b.wellBounded
  | .repeated e low high greedy =>
    e.wellBounded &&
      (e.demanding ||
        (low ≤ high.getD low && low ≤ maxCount && high.getD 0 ≤ maxCount &&
          (repeated e low high greedy).weight < maxWeight))
  | .group _ e | .atomic e | .lookAhead _ e | .lookBehind _ _ e => e.wellBounded
  | .ifElse c a b => c.wellBounded && a.wellBounded && b.wellBounded
  | _ => true

end Expr

end JsonSchema.Pattern
