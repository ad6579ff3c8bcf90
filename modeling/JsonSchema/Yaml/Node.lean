import JsonSchema.Yaml.Token

/-!
# `JsonSchema.Yaml.Node` — the nodes of a document

Tokens are read by recursive descent. Each reader gives what it has read and the tokens that are
left, and goes on only where there are fewer of them, so the recursion ends with the tokens.

## Contents
- **Nodes.** `Properties`, `Node` (over the way aliases name their target), `Node.empty`.
- **Properties.** `Handles`, `expandTag?`, `readProperties`.
- **Reading.** `goOn`, `readNode`, and the collections below it.
- **Documents.** `Directives`, `readDocument?`: the only document of a stream, if it has one.
-/

namespace JsonSchema.Yaml

/-! ## Nodes -/

/-- What may stand before the content of a node. -/
structure Properties where
  anchor : Option String
  tag : Option String
deriving DecidableEq

/-- A node of a document. -/
inductive Node (α : Type) where
  | scalar (props : Properties) (text : String) (plain : Bool)
  | sequence (props : Properties) (items : List (Node α))
  | mapping (props : Properties) (pairs : List (Node α × Node α))
  | alias (target : α)

/-- The node that stands where nothing is written. -/
def Node.empty {α : Type} : Node α := .scalar ⟨none, none⟩ "" true

/-! ## Properties -/

/-- What the handles of tags expand to. -/
abbrev Handles := List (String × String)

/-- The text of a tag with its handle expanded. A tag without a handle is complete. -/
def expandTag? (handles : Handles) (handle suffix : String) : Option String :=
  if handle.isEmpty then some suffix else (handles.lookup handle).map (· ++ suffix)

/-- The anchor and the tag before a node, in either order. -/
def readProperties (handles : Handles) : List Token → Option (Properties × List Token)
  | .anchor name :: .tag handle suffix :: rest | .tag handle suffix :: .anchor name :: rest =>
    (expandTag? handles handle suffix).map fun tag => (⟨some name, some tag⟩, rest)
  | .anchor name :: rest => some (⟨some name, none⟩, rest)
  | .tag handle suffix :: rest =>
    (expandTag? handles handle suffix).map fun tag => (⟨none, some tag⟩, rest)
  | ts => some (⟨none, none⟩, ts)

/-- The properties of a written scalar: a lone mark as its tag says nothing. -/
def Properties.ofScalar (props : Properties) : Properties :=
  if props.tag = some "!" then { props with tag := none } else props

/-! ## Reading -/

/-- Go on with what has been read and the tokens that are left, if they are fewer than a bound. -/
def goOn {β γ : Type} (bound : Nat) (read : Option (β × List Token))
    (next : β → (rest : List Token) → rest.length < bound → Option γ) : Option γ :=
  match read with
  | none => none
  | some (value, rest) => if h : rest.length < bound then next value rest h else none

/-- Whether the next token is one of some. -/
def nextIn (ts closing : List Token) : Bool := ts.head?.any closing.contains

mutual

/-- A node. Blocks begin only in blocks, and unindented sequences only in mappings. -/
def readNode (handles : Handles) (block unindented : Bool) (ts : List Token) :
    Option (Node String × List Token) :=
  match ts with
  | .alias name :: rest => some (.alias name, rest)
  | ts =>
    goOn (ts.length + 1) (readProperties handles ts) fun props rest _ =>
      readContent handles block unindented props (rest.length < ts.length) rest
termination_by 4 * ts.length + 2

/-- The content of a node; where something is written before it, it may be empty. -/
def readContent (handles : Handles) (block unindented : Bool) (props : Properties)
    (written : Bool) (ts : List Token) : Option (Node String × List Token) :=
  match ts with
  | .scalar text plain :: rest => some (.scalar props.ofScalar text plain, rest)
  | .flowSequenceStart :: rest =>
    (readFlowItems handles rest).map fun (items, rest) => (.sequence props items, rest)
  | .flowMappingStart :: rest =>
    (readFlowPairs handles rest).map fun (pairs, rest) => (.mapping props pairs, rest)
  | ts =>
    if unindented && nextIn ts [.blockEntry] then
      (readUnindentedItems handles ts).map fun (items, rest) => (.sequence props items, rest)
    else if block && nextIn ts [.blockSequenceStart] then
      (readItems handles ts.tail).map fun (items, rest) => (.sequence props items, rest)
    else if block && nextIn ts [.blockMappingStart] then
      (readPairs handles ts.tail).map fun (pairs, rest) => (.mapping props pairs, rest)
    else if written then some (.scalar props "" true, ts)
    else none
termination_by 4 * ts.length + 1

/-- A node, or nothing before one of some tokens. -/
def readPart (handles : Handles) (closing : List Token) (block unindented : Bool)
    (ts : List Token) : Option (Node String × List Token) :=
  if nextIn ts closing then some (.empty, ts) else readNode handles block unindented ts
termination_by 4 * ts.length + 3

/-- The items of a block sequence, to its end. -/
def readItems (handles : Handles) (ts : List Token) : Option (List (Node String) × List Token) :=
  match ts with
  | .blockEntry :: rest =>
    goOn (rest.length + 1) (readPart handles [.blockEntry, .blockEnd] true false rest)
      fun item rest _ => (readItems handles rest).map fun (items, rest) => (item :: items, rest)
  | .blockEnd :: rest => some ([], rest)
  | _ => none
termination_by 4 * ts.length

/-- The items of a sequence that is not indented, as long as there are any. -/
def readUnindentedItems (handles : Handles) (ts : List Token) :
    Option (List (Node String) × List Token) :=
  match ts with
  | .blockEntry :: rest =>
    goOn (rest.length + 1)
      (readPart handles [.blockEntry, .key, .value, .blockEnd] true false rest)
      fun item rest _ =>
        (readUnindentedItems handles rest).map fun (items, rest) => (item :: items, rest)
  | ts => some ([], ts)
termination_by 4 * ts.length

/-- The pairs of a block mapping, to its end. -/
def readPairs (handles : Handles) (ts : List Token) :
    Option (List (Node String × Node String) × List Token) :=
  match ts with
  | .key :: rest =>
    goOn (rest.length + 1) (readPart handles [.key, .value, .blockEnd] true true rest)
      fun key rest _ =>
        goOn (rest.length + 1) (readValue handles [.key, .value, .blockEnd] true rest)
          fun value rest _ =>
            (readPairs handles rest).map fun (pairs, rest) => ((key, value) :: pairs, rest)
  | .blockEnd :: rest => some ([], rest)
  | _ => none
termination_by 4 * ts.length

/-- The value after a key, which may be missing together with its sign. -/
def readValue (handles : Handles) (closing : List Token) (block : Bool) (ts : List Token) :
    Option (Node String × List Token) :=
  match ts with
  | .value :: rest => readPart handles closing block block rest
  | ts => some (.empty, ts)
termination_by 4 * ts.length

/-- The items of a bracketed sequence, from where one may begin. -/
def readFlowItems (handles : Handles) (ts : List Token) :
    Option (List (Node String) × List Token) :=
  match ts with
  | .flowSequenceEnd :: rest => some ([], rest)
  | .key :: rest =>
    goOn (rest.length + 1) (readSinglePair handles rest) fun item rest _ =>
      (readMoreItems handles rest).map fun (items, rest) => (item :: items, rest)
  | ts =>
    goOn ts.length (readNode handles false false ts) fun item rest _ =>
      (readMoreItems handles rest).map fun (items, rest) => (item :: items, rest)
termination_by 4 * ts.length + 3

/-- The items of a bracketed sequence, from the end of one. -/
def readMoreItems (handles : Handles) (ts : List Token) :
    Option (List (Node String) × List Token) :=
  match ts with
  | .flowSequenceEnd :: rest => some ([], rest)
  | .flowEntry :: rest => readFlowItems handles rest
  | _ => none
termination_by 4 * ts.length

/-- A pair that is an item of a bracketed sequence, after the sign of its key. A token that leaves
no room for the key is passed over. -/
def readSinglePair (handles : Handles) (ts : List Token) : Option (Node String × List Token) :=
  let key :=
    if nextIn ts [.value, .flowEntry, .flowSequenceEnd] then some (.empty, ts.tail)
    else readNode handles false false ts
  goOn (ts.length + 1) key fun key rest _ =>
    (readValue handles [.flowEntry, .flowSequenceEnd] false rest).map fun (value, rest) =>
      (.mapping ⟨none, none⟩ [(key, value)], rest)
termination_by 4 * ts.length + 3

/-- The pairs of a bracketed mapping, from where one may begin. A key without its sign has no
value. -/
def readFlowPairs (handles : Handles) (ts : List Token) :
    Option (List (Node String × Node String) × List Token) :=
  match ts with
  | .flowMappingEnd :: rest => some ([], rest)
  | .key :: rest =>
    goOn (rest.length + 1) (readPart handles [.value, .flowEntry, .flowMappingEnd] false false rest)
      fun key rest _ =>
        goOn (rest.length + 1) (readValue handles [.flowEntry, .flowMappingEnd] false rest)
          fun value rest _ =>
            (readMorePairs handles rest).map fun (pairs, rest) => ((key, value) :: pairs, rest)
  | ts =>
    goOn ts.length (readNode handles false false ts) fun key rest _ =>
      (readMorePairs handles rest).map fun (pairs, rest) => ((key, .empty) :: pairs, rest)
termination_by 4 * ts.length + 3

/-- The pairs of a bracketed mapping, from the end of one. -/
def readMorePairs (handles : Handles) (ts : List Token) :
    Option (List (Node String × Node String) × List Token) :=
  match ts with
  | .flowMappingEnd :: rest => some ([], rest)
  | .flowEntry :: rest => readFlowPairs handles rest
  | _ => none
termination_by 4 * ts.length

end

/-! ## Documents -/

/-- What the directives before a document say. -/
structure Directives where
  version : Option (Nat × Nat)
  handles : Handles

/-- The handles that every document knows. -/
def defaultHandles : Handles := [("!", "!"), ("!!", "tag:yaml.org,2002:")]

/-- The directives before a document, each said once, and the tokens after them. -/
def readDirectives (d : Directives) : List Token → Option (Directives × List Token)
  | .version major minor :: rest =>
    if d.version.isNone && major == 1 && (minor == 1 || minor == 2) then
      readDirectives { d with version := some (major, minor) } rest
    else none
  | .tagHandle handle expansion :: rest =>
    if (d.handles.lookup handle).isSome then none
    else readDirectives { d with handles := d.handles ++ [(handle, expansion)] } rest
  | ts => some (d, ts)

/-- Whether a token belongs to no document. -/
def isOutside : Token → Bool
  | .version _ _ | .tagHandle _ _ | .documentStart | .documentEnd | .streamEnd => true
  | _ => false

/-- Whether nothing but the ends of a document and of the stream is left. -/
def endsStream (ts : List Token) : Bool := ts.dropWhile (· == .documentEnd) == [.streamEnd]

/-- The document at the start of a stream; directives call for the mark of its start. -/
def readFirst? (ts : List Token) : Option (Node String × List Token) :=
  match readDirectives ⟨none, []⟩ ts with
  | none => none
  | some (d, .documentStart :: rest) =>
    if rest.head?.any isOutside then some (.empty, rest)
    else readNode (d.handles ++ defaultHandles) true false rest
  | some (_, rest) =>
    if rest.length < ts.length then none else readNode defaultHandles true false ts

/-- The only document of a stream, or an empty node for an empty stream. -/
def readDocument? (ts : List Token) : Option (Node String) :=
  if ts == [.streamEnd] then some .empty
  else
    match readFirst? ts with
    | some (node, rest) => if endsStream rest then some node else none
    | none => none

end JsonSchema.Yaml
