/-!
# `JsonSchema.Pointer` — places in a document

A place is a list of tokens, root first, and is written as a JSON Pointer. While a document is
walked the place is held as a `Trail`, which grows at its far end and shares what leads there.

## Contents
- **Tokens.** `Token`, `Token.text`, `Path`.
- **Pointers.** `replaceChar`, `Token.escaped`, `Path.pointer`.
- **Trails.** `Trail`, `Trail.toPath`, `Trail.last?`, `Trail.depth`, `Trail.frames`.
- **Laws.** `Trail.toPath_extend`, and `Trail.toPath_ofPath`: a trail leads to the place it was built for.
-/

namespace JsonSchema

/-- One step into a document. -/
inductive Token where
  | key (name : String)
  | index (position : Nat)
deriving DecidableEq

/-- The text of a token. -/
def Token.text : Token → String
  | .key name => name
  | .index position => toString position

/-- A place in a document, root first. -/
abbrev Path := List Token

/-- A text in which a character is replaced wherever it stands. -/
def replaceChar (c : Char) (replacement cs : List Char) : List Char :=
  cs.flatMap fun d => if d = c then replacement else [d]

/-- A token as a pointer writes it. In a name tildes give way first, so that those that stand for
slashes stay as they are; digits need no escape. -/
def Token.escaped : Token → List Char
  | .key name => replaceChar '/' ['~', '1'] (replaceChar '~' ['~', '0'] name.toList)
  | .index position => (toString position).toList

namespace Path

/-- The characters of a pointer: each token after a slash. -/
def pointerChars (path : Path) : List Char := path.flatMap fun t => '/' :: t.escaped

/-- The place as a JSON Pointer. -/
def pointer (path : Path) : String := String.ofList path.pointerChars

end Path

/-- A place as the steps that lead to it. -/
inductive Trail where
  | root
  | key (parent : Trail) (name : String)
  | index (parent : Trail) (position : Nat)

namespace Trail

/-- The tokens of a trail, the last first. -/
def tokensBack : Trail → List Token
  | .root => []
  | .key parent name => .key name :: parent.tokensBack
  | .index parent position => .index position :: parent.tokensBack

/-- The place that a trail leads to. -/
def toPath (t : Trail) : Path := t.tokensBack.reverse

/-- The last step. -/
def last? : Trail → Option Token
  | .root => none
  | .key _ name => some (.key name)
  | .index _ position => some (.index position)

/-- The number of steps. -/
def depth : Trail → Nat
  | .root => 0
  | .key parent _ => parent.depth + 1
  | .index parent _ => parent.depth + 1

/-- One step more. -/
def extend (t : Trail) : Token → Trail
  | .key name => .key t name
  | .index position => .index t position

/-- The trail that leads to a place. -/
def ofPath (path : Path) : Trail := path.foldl extend .root

/-- The trails on the way, root first and the trail itself last. -/
def frames : Trail → List Trail
  | .root => [.root]
  | .key parent name => parent.frames ++ [.key parent name]
  | .index parent position => parent.frames ++ [.index parent position]

@[simp] theorem toPath_root : toPath .root = [] := rfl

@[simp] theorem toPath_extend (trail : Trail) (t : Token) :
    (trail.extend t).toPath = trail.toPath ++ [t] := by
  cases t <;> simp [extend, toPath, tokensBack]

/-- **The trail that is built for a place leads to it.** -/
theorem toPath_ofPath (path : Path) : (ofPath path).toPath = path := by
  -- each token goes to the far end, so the induction is over all trails to start from
  have hfold : ∀ trail : Trail, (path.foldl extend trail).toPath = trail.toPath ++ path := by
    induction path with
    | nil => simp
    | cons t rest ih =>
        intro trail
        rw [List.foldl_cons, ih, toPath_extend, List.append_assoc, List.singleton_append]
  exact hfold .root

end Trail

end JsonSchema
