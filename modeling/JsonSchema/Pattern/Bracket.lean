import JsonSchema.Pattern.CharSet

/-!
# `JsonSchema.Pattern.Bracket` — the notation of bracket classes

A class lists characters, ranges and shorthand sets; classes nest, `[:name:]` is an ASCII class,
and `&&`, `--` and `~~` are intersection, difference and symmetric difference of what stands on
their two sides. Right after the opening, hyphens and then a closing bracket are plain characters.

## Contents
- **Tokens.** `Token`.
- **Reading.** `OpenClass` (a class that is not closed yet), `range?`, `asciiClass?`, `read?`.
-/

namespace JsonSchema.Pattern.Bracket

/-- A piece of a class: a character as it stands, one that an escape makes plain, or a set. -/
inductive Token where
  | raw (c : Char)
  | plain (c : Char)
  | set (s : CharSet)

/-- The set operations that are written between items. -/
inductive Operation where
  | inter | diff | symmDiff

/-- The set that an operation makes. -/
def Operation.apply : Operation → CharSet → CharSet → CharSet
  | .inter => .inter
  | .diff => .diff
  | .symmDiff => .symmDiff

/-- A class that is being read: what stands before the last operation, and the items since. -/
structure OpenClass where
  negated : Bool
  left : Option (Operation × CharSet)
  items : CharSet

namespace OpenClass

/-- Add an item. -/
def add (o : OpenClass) (s : CharSet) : OpenClass := { o with items := .union o.items s }

/-- All that has been read, as one set. -/
def joined (insensitive : Bool) (o : OpenClass) : CharSet :=
  match o.left with
  | none => o.items
  | some (op, a) => op.apply (a.foldIf insensitive) (o.items.foldIf insensitive)

/-- Go on after an operation. -/
def operate (insensitive : Bool) (o : OpenClass) (op : Operation) : OpenClass :=
  ⟨o.negated, some (op, o.joined insensitive), .empty⟩

/-- The set of the class. -/
def close (insensitive : Bool) (o : OpenClass) : CharSet :=
  ((o.joined insensitive).foldIf insensitive).complIf o.negated

end OpenClass

/-- The characters of tokens up to a colon, and the tokens after it. -/
def untilColon : List Token → Option (List Char × List Token)
  | [] => none
  | .raw ':' :: rest => some ([], rest)
  | .raw c :: rest => (untilColon rest).map fun (cs, r) => (c :: cs, r)
  | _ :: _ => none

/-- An ASCII class, the bracket and the colon that open it having been read. -/
def asciiClass? (insensitive : Bool) (tokens : List Token) : Option (CharSet × List Token) :=
  let (negated, tokens) :=
    match tokens with
    | .raw '^' :: rest => (true, rest)
    | _ => (false, tokens)
  match untilColon tokens with
  | some (name, .raw ']' :: rest) =>
    (CharSet.ascii? (String.ofList name)).map fun s =>
      ((s.foldIf insensitive).complIf negated, rest)
  | _ => none

/-- The start of a class, its bracket having been read. -/
def opening (tokens : List Token) : OpenClass × List Token :=
  let (negated, tokens) :=
    match tokens with
    | .raw '^' :: rest => (true, rest)
    | _ => (false, tokens)
  let isHyphen := fun t : Token => match t with | .raw '-' => true | _ => false
  let hyphens := tokens.takeWhile isHyphen
  let tokens := tokens.dropWhile isHyphen
  match hyphens, tokens with
  | [], .raw ']' :: rest => (⟨negated, none, CharSet.single ']'⟩, rest)
  | [], _ => (⟨negated, none, .empty⟩, tokens)
  | _ :: _, _ => (⟨negated, none, CharSet.single '-'⟩, tokens)

/-- The character of a token that is one. -/
def Token.char? : Token → Option Char
  | .raw c | .plain c => some c
  | .set _ => none

/-- The set of a token. -/
def Token.toSet : Token → CharSet
  | .raw c | .plain c => CharSet.single c
  | .set s => s

/-- An item that starts with a token: a range if a hyphen follows that neither closes the class
nor starts a difference. -/
def range? (first : Token) (rest : List Token) : Option (CharSet × List Token) :=
  match rest with
  | .raw '-' :: .raw ']' :: _ | .raw '-' :: .raw '-' :: _ => some (first.toSet, rest)
  | .raw '-' :: second :: rest => do
    let low ← first.char?
    let high ← second.char?
    if low ≤ high then some (CharSet.between low high, rest) else none
  | .raw '-' :: [] => none
  | _ => some (first.toSet, rest)

/-- Read on inside the open classes, innermost first. The fuel is the number of tokens. -/
def readItems (insensitive : Bool) :
    Nat → OpenClass → List OpenClass → List Token → Option (CharSet × List Token)
  | 0, _, _, _ => none
  | fuel + 1, current, outer, tokens =>
    match tokens with
    | [] => none
    | .raw ']' :: rest =>
      match outer with
      | [] => some (current.close insensitive, rest)
      | parent :: outer =>
        readItems insensitive fuel (parent.add (current.close insensitive)) outer rest
    | .raw '&' :: .raw '&' :: rest =>
      readItems insensitive fuel (current.operate insensitive .inter) outer rest
    | .raw '-' :: .raw '-' :: rest =>
      readItems insensitive fuel (current.operate insensitive .diff) outer rest
    | .raw '~' :: .raw '~' :: rest =>
      readItems insensitive fuel (current.operate insensitive .symmDiff) outer rest
    | .raw '[' :: rest =>
      let named :=
        match rest with
        | .raw ':' :: after => asciiClass? insensitive after
        | _ => none
      match named with
      | some (s, rest) => readItems insensitive fuel (current.add s) outer rest
      | none =>
        let (inner, rest) := opening rest
        readItems insensitive fuel inner (current :: outer) rest
    | first :: rest =>
      match range? first rest with
      | some (s, rest) => readItems insensitive fuel (current.add s) outer rest
      | none => none

/-- The set of a class, its first bracket having been read, and the tokens after the class. -/
def read? (insensitive : Bool) (tokens : List Token) : Option (CharSet × List Token) :=
  let (first, rest) := opening tokens
  readItems insensitive (tokens.length + 1) first [] rest

end JsonSchema.Pattern.Bracket
