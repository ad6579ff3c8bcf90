import JsonSchema.Yaml.Node
import JsonSchema.Yaml.Scalar
import JsonSchema.Yaml.Tokens

/-!
# `JsonSchema.Yaml.Composition` — from nodes to a tree

First each alias gets the number of its anchor, numbers being given out in the order of the text.
Then the tree is built, an alias standing for a copy of its target. How deep the tree is and how
many aliases are followed is limited, so that a short text cannot stand for an endless tree.

## Contents
- **Numbers.** `Anchors`, `Node.number`.
- **Trees.** `Document`, `compose`, `Tree.read?`.
-/

namespace JsonSchema.Yaml

/-! ## Numbers -/

/-- The anchors so far: the number that each name has now, and the nodes by number, the latest
first. -/
structure Anchors where
  numbers : List (String × Nat)
  targets : List (Nat × Node Nat)

namespace Anchors

/-- No anchors. -/
def none : Anchors := ⟨[], []⟩

/-- Give a name the next number, which is the count of names before it. -/
def declare (a : Anchors) (name : String) : Anchors :=
  { a with numbers := (name, a.numbers.length) :: a.numbers.filter fun e => e.1 != name }

/-- Declare the anchor of a node, read its content, and enter it. Nodes inside of it are later. -/
def enclosing {β : Type} (a : Anchors) (props : Properties) (node : β → Node Nat)
    (content : Anchors → Option (β × Anchors)) : Option (Node Nat × Anchors) :=
  match props.anchor with
  | .none => (content a).map fun (parts, a) => (node parts, a)
  | some name =>
    let number := a.numbers.length
    (content { a.declare name with targets := [] }).map fun (parts, inner) =>
      (node parts, { inner with targets := inner.targets ++ (number, node parts) :: a.targets })

end Anchors

namespace Node

mutual

/-- Number the aliases of a node; fails at one without an anchor before it. -/
def number (a : Anchors) : Node String → Option (Node Nat × Anchors)
  | .alias name => (a.numbers.lookup name).map fun n => (.alias n, a)
  | .scalar props text plain =>
    a.enclosing props (fun _ : Unit => .scalar props text plain) fun a => some ((), a)
  | .sequence props items => a.enclosing props (.sequence props) fun a => numberItems a items
  | .mapping props pairs => a.enclosing props (.mapping props) fun a => numberPairs a pairs

/-- Number the aliases of items. -/
def numberItems (a : Anchors) : List (Node String) → Option (List (Node Nat) × Anchors)
  | [] => some ([], a)
  | item :: rest =>
    (number a item).bind fun (item, a) =>
      (numberItems a rest).map fun (rest, a) => (item :: rest, a)

/-- Number the aliases of pairs. -/
def numberPairs (a : Anchors) :
    List (Node String × Node String) → Option (List (Node Nat × Node Nat) × Anchors)
  | [] => some ([], a)
  | (key, value) :: rest =>
    (number a key).bind fun (key, a) =>
      (number a value).bind fun (value, a) =>
        (numberPairs a rest).map fun (rest, a) => ((key, value) :: rest, a)

end

mutual

/-- The size of a node: a collection counts once for its start and once for its end. -/
def size : Node Nat → Nat
  | .scalar _ _ _ | .alias _ => 1
  | .sequence _ items => sizeItems items + 2
  | .mapping _ pairs => sizePairs pairs + 2

/-- The size of items. -/
def sizeItems : List (Node Nat) → Nat
  | [] => 0
  | item :: rest => size item + sizeItems rest

/-- The size of pairs. -/
def sizePairs : List (Node Nat × Node Nat) → Nat
  | [] => 0
  | (key, value) :: rest => size key + size value + sizePairs rest

end

end Node

/-! ## Trees -/

/-- A document to compose: the targets of its aliases, and how many may be followed. -/
structure Document where
  targets : List (Nat × Node Nat)
  limit : Nat

/-- How deep collections may stand inside each other. -/
def depthLimit : Nat := 128

/-- A computation that counts the aliases it follows. -/
abbrev Following := StateT Nat Option

namespace Document

/-- The node that a node stands for: the target of an alias, or itself. -/
def follow (d : Document) : Node Nat → Following (Node Nat)
  | .alias n => do
    let count ← get
    if d.limit ≤ count then failure
    set (count + 1)
    match d.targets.lookup n with
    | some target => pure target
    | none => failure
  | node => pure node

/-- A tree under the tag that the document gave it. -/
def tagging (props : Properties) (tree : Tree) : Tree :=
  match props.tag with
  | some tag => if isOwnTag tag then .tagged (tagName tag) tree else tree
  | none => tree

/-- Compose pairs, no key being the same as one before it. -/
def composePairs (part : Node Nat → Following Tree) :
    List (Tree × Tree) → List (Node Nat × Node Nat) → Following (List (Tree × Tree))
  | done, [] => pure done.reverse
  | done, (key, value) :: rest => do
    let key ← part key
    if done.any fun e => e.1.same key then failure
    let value ← part value
    composePairs part ((key, value) :: done) rest

/-- Compose a node whose parts are composed as given; without a way to do that it has no parts. -/
def composeNode (d : Document) (part : Option (Node Nat → Following Tree)) (node : Node Nat) :
    Following Tree := do
  match ← d.follow node, part with
  | .scalar props text plain, _ =>
    match scalar? props.tag text plain with
    | some tree => pure tree
    | none => failure
  | .sequence props items, some part => return tagging props (.sequence (← items.mapM part))
  | .mapping props pairs, some part =>
    return tagging props (.mapping (← composePairs part [] pairs))
  | _, _ => failure

/-- Compose a node of limited depth. -/
def compose (d : Document) : Nat → Node Nat → Following Tree
  | 0 => d.composeNode none
  | depth + 1 => d.composeNode (some (d.compose depth))

end Document

/-- How often on average an alias may be followed for each part of a document. -/
def followFactor : Nat := 100

/-- The tree of a node. -/
def Node.tree? (node : Node String) : Option Tree :=
  (node.number .none).bind fun (node, anchors) =>
    let d : Document := ⟨anchors.targets, node.size * followFactor⟩
    ((d.compose depthLimit node).run 0).map Prod.fst

/-- The tree that a text holds, if it is a stream with one document or none. -/
def Tree.read? (text : String) : Option Tree :=
  (((prepare? text).bind tokens?).bind readDocument?).bind Node.tree?

end JsonSchema.Yaml
