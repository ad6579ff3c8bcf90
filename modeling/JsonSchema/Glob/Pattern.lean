import JsonSchema.Text.Split

/-!
# `JsonSchema.Glob.Pattern` — patterns for paths

`?` stands for one character, `*` for any number of them, brackets for one of a set, and `**` as a
whole part of a path for any number of directories.

## Contents
- **Faults.** `Fault` with its wording, and `Error`, a fault at a place.
- **Pieces.** `Range`, `Piece`, `Piece.read`.
- **Parts.** `Part`, `Pattern`, `Pattern.read`.
- **Matching.** `Range.covers`, `matchesAll`, `Part.covers`.
-/

namespace JsonSchema.Glob

/-! ## Faults -/

/-- Why a text is no pattern. -/
inductive Fault where
  | tooManyStars
  | starsInsidePart
  | badRange
deriving DecidableEq

/-- The wording of a fault. -/
def Fault.message : Fault → String
  | .tooManyStars => "wildcards are either regular `*` or recursive `**`"
  | .starsInsidePart => "recursive wildcards must form a single path component"
  | .badRange => "invalid range pattern"

/-- A fault and its place, counted in characters. -/
structure Error where
  place : Nat
  fault : Fault
deriving DecidableEq

/-- The wording of an error, with its place. -/
def Error.message (e : Error) : String :=
  "Pattern syntax error near position " ++ toString e.place ++ ": " ++ e.fault.message

/-! ## Pieces -/

/-- The characters from one to another. -/
structure Range where
  low : Char
  high : Char
deriving DecidableEq

/-- A piece of a pattern. -/
inductive Piece where
  | exactly (c : Char)
  | anyOne
  | anyMany
  | within (ranges : List Range)
  | outside (ranges : List Range)
  | directories
deriving DecidableEq

/-- The ranges that the text between brackets writes. -/
def ranges : List Char → List Range
  | a :: '-' :: b :: rest => ⟨a, b⟩ :: ranges rest
  | a :: rest => ⟨a, a⟩ :: ranges rest
  | [] => []

/-- The text up to a closing bracket, which is never its first character, and what follows it. -/
def bracket? : List Char → Option (List Char × List Char)
  | [] => none
  | c :: rest =>
    match rest.dropWhile (· != ']') with
    | [] => none
    | _ :: after => some (c :: rest.takeWhile (· != ']'), after)

theorem length_of_bracket? {cs text after : List Char} (h : bracket? cs = some (text, after)) :
    after.length < cs.length := by
  unfold bracket? at h
  split at h
  · simp at h
  · next c rest =>
    split at h
    · simp at h
    · next d tail hd =>
      have hle := (List.dropWhile_sublist (fun x : Char => x != ']') (l := rest)).length_le
      rw [hd] at hle
      simp only [Option.some.injEq, Prod.mk.injEq] at h
      obtain ⟨_, rfl⟩ := h
      simp only [List.length_cons] at hle ⊢
      omega

/-- The piece after an opening bracket and what follows it. -/
def set? : List Char → Option (Piece × List Char)
  | '!' :: rest => (bracket? rest).map fun (text, after) => (.outside (ranges text), after)
  | cs => (bracket? cs).map fun (text, after) => (.within (ranges text), after)

theorem length_of_set? {cs after : List Char} {piece : Piece} (h : set? cs = some (piece, after)) :
    after.length < cs.length := by
  unfold set? at h
  split at h <;> simp only [Option.map_eq_some_iff, Prod.mk.injEq, Prod.exists] at h <;>
    obtain ⟨text, rest, hb, -, rfl⟩ := h <;> have := length_of_bracket? hb
  · simp only [List.length_cons]
    omega
  · exact this

/-- Two stars have to be all that there is between two slashes. -/
def checkStars (place : Nat) (before : Option Char) (after : List Char) : Except Error Unit :=
  if before.any (· != '/') then .error ⟨place - 1, .starsInsidePart⟩
  else if after.head?.any (· != '/') then .error ⟨place + 2, .starsInsidePart⟩
  else .ok ()

/-- The pieces of a text from a place on, `before` being the character before it. -/
def Piece.read (place : Nat) (before : Option Char) (text : List Char) :
    Except Error (List Piece) :=
  match text with
  | [] => .ok []
  | '?' :: rest => (Piece.read (place + 1) (some '?') rest).map (.anyOne :: ·)
  | '[' :: rest =>
    match h : set? rest with
    | none => .error ⟨place, .badRange⟩
    | some (piece, after) =>
      have := length_of_set? h
      (Piece.read (place + (rest.length + 1 - after.length)) (some ']') after).map (piece :: ·)
  | '*' :: '*' :: '*' :: _ => .error ⟨place + 2, .tooManyStars⟩
  | '*' :: '*' :: rest =>
    match checkStars place before rest with
    | .error e => .error e
    | .ok () => (Piece.read (place + 3) (some '/') (rest.drop 1)).map (.directories :: ·)
  | '*' :: rest => (Piece.read (place + 1) (some '*') rest).map (.anyMany :: ·)
  | c :: rest => (Piece.read (place + 1) (some c) rest).map (.exactly c :: ·)
termination_by text.length

/-! ## Parts -/

/-- What stands between two slashes of a pattern. A part without signs is a name as it is. -/
inductive Part where
  | named (name : String)
  | directories
  | like (pieces : List Piece)
deriving DecidableEq

/-- The character that a piece is. -/
def Piece.character? : Piece → Option Char
  | .exactly c => some c
  | _ => none

/-- The part that pieces make. -/
def Part.ofPieces (pieces : List Piece) : Part :=
  match pieces.mapM Piece.character? with
  | some cs => .named (String.ofList cs)
  | none => if pieces = [.directories] then .directories else .like pieces

/-- A pattern: whether it starts at the root, its parts, and whether it asks for a directory. -/
structure Pattern where
  absolute : Bool
  parts : List Part
  directoryOnly : Bool
deriving DecidableEq

/-- The texts of the parts after the root. A slash at the end makes no part. -/
def partTexts (text : List Char) : List (List Char) :=
  let ps := Text.pieces '/' text
  if ps.length ≠ 1 ∧ ps.getLast? = some [] then ps.dropLast else ps

/-- The pattern that a text writes. The text has to be in order as a whole, and so has each part. -/
def Pattern.read (text : String) : Except Error Pattern :=
  let cs := text.toList
  match Piece.read 0 none cs with
  | .error e => .error e
  | .ok _ =>
    let absolute := cs.head? == some '/'
    let rest := if absolute then cs.drop 1 else cs
    match (partTexts rest).mapM (Piece.read 0 none) with
    | .error e => .error e
    | .ok parts => .ok ⟨absolute, parts.map .ofPieces, cs.getLast? == some '/'⟩

/-! ## Matching -/

/-- Whether a character lies in a range. -/
def Range.covers (r : Range) (c : Char) : Bool := r.low ≤ c && c ≤ r.high

/-- Whether a piece that is one character can be a certain one. -/
def Piece.allows (c : Char) : Piece → Bool
  | .exactly d => c == d
  | .anyOne => true
  | .within rs => rs.any fun r => r.covers c
  | .outside rs => !rs.any fun r => r.covers c
  | .anyMany | .directories => false

/-- A text and what is left of it after each of its characters. -/
def suffixes : List Char → List (List Char)
  | [] => [[]]
  | c :: rest => (c :: rest) :: suffixes rest

/-- Whether pieces match a whole name. -/
def matchesAll : List Piece → List Char → Bool
  | [], cs => cs.isEmpty
  | .anyMany :: ps, cs => (suffixes cs).any (matchesAll ps)
  | p :: ps, c :: cs => p.allows c && matchesAll ps cs
  | _ :: _, [] => false

/-- Whether a part matches a name. -/
def Part.covers (name : String) : Part → Bool
  | .named s => s == name
  | .directories => true
  | .like ps => matchesAll ps name.toList

end JsonSchema.Glob
