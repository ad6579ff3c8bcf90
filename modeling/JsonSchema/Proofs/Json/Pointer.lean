import Mathlib.Data.List.Forall2
import JsonSchema.Json.Value
import JsonSchema.Pointer
import JsonSchema.Text.Digits
import JsonSchema.Text.Split

/-!
# `JsonSchema.Proofs.Json.Pointer` — JSON Pointers are read as they are written

A place in a document is written as a JSON Pointer: each token after a slash, with `~` as `~0` and `/` as
`~1`. A reader cuts the text at the slashes, reads `~1` and then `~0`, and is left with texts. Whether a
text is an index or a name is not written; the reader takes it for what the value at hand is made of. So
a pointer leads back to its place in every document that has the place.

## Contents
- **Escapes.** `escaped_eq`: slashes and tildes are replaced one after the other, and yet each character
  for itself.
- **Tokens.** `Pointer.replacePair`, `Pointer.unescape`, `Pointer.tokens?`, and `tokens?_pointer`: the
  texts of the tokens come back. Main statement `pointer_round_trip`.
- **Indices.** `Pointer.index?`, and `index?_toString`.
- **Places.** `Value.follow` goes token by token, `Value.resolve` along a pointer; the main statement
  `resolve_pointer` says that they come to one node.
-/

namespace JsonSchema

/-! ## Tokens -/

namespace Pointer

/-- A character of a token as a pointer writes it. -/
def escapeChar (c : Char) : List Char :=
  if c = '~' then ['~', '0'] else if c = '/' then ['~', '1'] else [c]

/-- **Escaping goes character by character**: no tilde that stands for a slash is taken for one of the
token, since slashes are replaced after tildes. -/
theorem escaped_eq (t : Token) : t.escaped = t.text.toList.flatMap escapeChar := by
  cases t with
  | key name =>
      show (replaceChar '~' ['~', '0'] name.toList).flatMap _ = name.toList.flatMap escapeChar
      rw [replaceChar, List.flatMap_assoc]
      refine List.flatMap_congr fun c _ => ?_
      unfold escapeChar
      split
      · rfl
      · exact List.flatMap_singleton _ _
  | index position =>
      have hplain : ∀ c ∈ (toString position).toList, escapeChar c = [c] := by
        intro c hc
        have hdigits : (toString position).toList = Nat.toDigits 10 position := Nat.toList_repr
        have hdigit : c.isDigit = true := Nat.isDigit_of_mem_toDigits (by decide) (by decide) (hdigits ▸ hc)
        have htilde : c ≠ '~' := by
          rintro rfl
          exact absurd hdigit (by decide)
        have hslash : c ≠ '/' := by
          rintro rfl
          exact absurd hdigit (by decide)
        rw [escapeChar, if_neg htilde, if_neg hslash]
      show (toString position).toList = (toString position).toList.flatMap escapeChar
      rw [List.flatMap_congr hplain, List.flatMap_singleton']

/-- A text in which a pair of characters is replaced by one wherever it stands, from left to right. -/
def replacePair (first second whole : Char) : List Char → List Char
  | [] => []
  | [c] => [c]
  | c :: d :: rest =>
    if c = first ∧ d = second then whole :: replacePair first second whole rest
    else c :: replacePair first second whole (d :: rest)

/-- A token as it was before it was escaped. Slashes are read first, so that `~01` is `~1`. -/
def unescape (cs : List Char) : List Char :=
  replacePair '~' '0' '~' (replacePair '~' '1' '/' cs)

/-- The texts of the tokens that a pointer names. A pointer is empty or begins with a slash. -/
def tokens? (pointer : String) : Option (List String) :=
  match Text.pieces '/' pointer.toList with
  | [] :: parts => some (parts.map fun part => String.ofList (unescape part))
  | _ => none

section Escapes

variable {first second whole c : Char}

theorem replacePair_cons (h : c ≠ first) (rest : List Char) :
    replacePair first second whole (c :: rest) = c :: replacePair first second whole rest := by
  cases rest with
  | nil => rfl
  | cons d rest =>
      rw [replacePair, if_neg]
      exact fun hpair => h hpair.1

theorem replacePair_pair (rest : List Char) :
    replacePair first second whole (first :: second :: rest) =
      whole :: replacePair first second whole rest := by
  rw [replacePair, if_pos ⟨rfl, rfl⟩]

/-- A pair that only begins like the one that is replaced stays, if its end begins no other. -/
theorem replacePair_other {d : Char} (hd : d ≠ second) (hfirst : d ≠ first) (rest : List Char) :
    replacePair first second whole (first :: d :: rest) =
      first :: d :: replacePair first second whole rest := by
  rw [replacePair, if_neg, replacePair_cons hfirst]
  exact fun hpair => hd hpair.2

end Escapes

/-- A character of a token, once the slashes of the token have been read. -/
def escapeTilde (c : Char) : List Char := if c = '~' then ['~', '0'] else [c]

/-- Reading slashes leaves the tildes escaped. -/
theorem replacePair_slash (cs : List Char) :
    replacePair '~' '1' '/' (cs.flatMap escapeChar) = cs.flatMap escapeTilde := by
  induction cs with
  | nil => rfl
  | cons c cs ih =>
      rw [List.flatMap_cons, List.flatMap_cons, ← ih]
      by_cases htilde : c = '~'
      · subst htilde
        exact replacePair_other (by decide) (by decide) _
      · by_cases hslash : c = '/'
        · subst hslash
          exact replacePair_pair _
        · have hplain : escapeChar c = [c] := by
            rw [escapeChar, if_neg htilde, if_neg hslash]
          rw [hplain, escapeTilde, if_neg htilde]
          exact replacePair_cons htilde _

theorem replacePair_tilde (cs : List Char) :
    replacePair '~' '0' '~' (cs.flatMap escapeTilde) = cs := by
  induction cs with
  | nil => rfl
  | cons c cs ih =>
      rw [List.flatMap_cons]
      by_cases htilde : c = '~'
      · subst htilde
        have hpair : replacePair '~' '0' '~' ('~' :: '0' :: cs.flatMap escapeTilde) =
            '~' :: replacePair '~' '0' '~' (cs.flatMap escapeTilde) := replacePair_pair _
        exact hpair.trans (by rw [ih])
      · rw [escapeTilde, if_neg htilde, List.singleton_append, replacePair_cons htilde, ih]

/-- **Unescaping undoes escaping.** -/
theorem unescape_escape (cs : List Char) : unescape (cs.flatMap escapeChar) = cs := by
  rw [unescape, replacePair_slash, replacePair_tilde]

/-- No slash is left in a token that has been escaped. -/
theorem slash_not_mem_escape (cs : List Char) : '/' ∉ cs.flatMap escapeChar := by
  intro h
  obtain ⟨c, -, hc⟩ := List.mem_flatMap.mp h
  unfold escapeChar at hc
  by_cases htilde : c = '~'
  · rw [if_pos htilde] at hc
    exact absurd hc (by decide)
  · rw [if_neg htilde] at hc
    by_cases hslash : c = '/'
    · rw [if_pos hslash] at hc
      exact absurd hc (by decide)
    · rw [if_neg hslash] at hc
      exact hslash (List.mem_singleton.mp hc).symm

/-- The slashes of a pointer stand before its tokens, and nowhere else. -/
theorem pieces_pointerChars (path : Path) :
    Text.pieces '/' path.pointerChars =
      [] :: path.map fun t => t.text.toList.flatMap escapeChar := by
  induction path with
  | nil => rfl
  | cons t rest ih =>
      have hchars : Path.pointerChars (t :: rest) =
          '/' :: (t.text.toList.flatMap escapeChar ++ Path.pointerChars rest) := by
        rw [← escaped_eq]
        rfl
      rw [hchars, Text.pieces_cons_self, Text.pieces_append (slash_not_mem_escape _), ih,
        List.modifyHead_cons, List.append_nil, List.map_cons]

/-- **A pointer gives back the texts of its tokens.** -/
theorem tokens?_pointer (path : Path) : tokens? path.pointer = some (path.map Token.text) := by
  have hcut : Text.pieces '/' path.pointer.toList =
      [] :: path.map fun t => t.text.toList.flatMap escapeChar := by
    rw [Path.pointer, String.toList_ofList, pieces_pointerChars]
  rw [tokens?, hcut]
  simp only [List.map_map, Option.some.injEq]
  refine List.map_congr_left fun t _ => ?_
  rw [Function.comp_apply, unescape_escape, String.ofList_toList]

/-- Pointers are equal where the texts of the tokens are. -/
theorem pointer_eq_iff {p q : Path} : p.pointer = q.pointer ↔ p.map Token.text = q.map Token.text := by
  constructor
  · intro h
    have htokens : tokens? p.pointer = tokens? q.pointer := congrArg tokens? h
    rw [tokens?_pointer, tokens?_pointer] at htokens
    exact Option.some.inj htokens
  · intro h
    have hchars : ∀ path : Path, path.pointerChars =
        (path.map Token.text).flatMap fun text => '/' :: text.toList.flatMap escapeChar := by
      intro path
      rw [List.flatMap_map]
      exact List.flatMap_congr fun t _ => by rw [escaped_eq]
    rw [Path.pointer, Path.pointer, hchars, hchars, h]

/-- **Places and pointers can be read back.** The trail that is built for a place leads to it, and its
pointer gives back the texts of its tokens. So two places have one pointer exactly if they have equally
many tokens with the same texts; places whose tokens are all names are told apart. -/
theorem pointer_round_trip :
    (∀ path : Path, (Trail.ofPath path).toPath = path ∧
      tokens? path.pointer = some (path.map Token.text)) ∧
    (∀ p q : Path, p.pointer = q.pointer ↔ List.Forall₂ (fun t u => t.text = u.text) p q) ∧
    ∀ names names' : List String,
      Path.pointer (names.map .key) = Path.pointer (names'.map .key) ↔ names = names' := by
  refine ⟨fun path => ⟨Trail.toPath_ofPath path, tokens?_pointer path⟩, fun p q => ?_, fun names names' => ?_⟩
  · rw [pointer_eq_iff, ← List.forall₂_eq_eq_eq, List.forall₂_map_left_iff, List.forall₂_map_right_iff]
  · have hnames : ∀ names : List String, (names.map Token.key).map Token.text = names := by
      intro names
      rw [List.map_map]
      exact List.map_id names
    rw [pointer_eq_iff, hnames, hnames]

-- an index and a name of the same digits are written alike
example : Path.pointer [.key "~1/", .index 0] = Path.pointer [.key "~1/", .key "0"] := by decide

/-! ## Indices -/

/-- The index that a token writes: decimal digits, of which the first is zero for zero alone. -/
def index? : List Char → Option Nat
  | ['0'] => some 0
  | [] | '0' :: _ => none
  | digits => Text.numeral? 10 digits

/-- **The text of an index is read as the index.** -/
theorem index?_toString (n : Nat) : index? (toString n).toList = some n := by
  have hdigits : (toString n).toList = Nat.toDigits 10 n := Nat.toList_repr
  rw [hdigits]
  rcases Nat.eq_zero_or_pos n with rfl | hpos
  · rfl
  · obtain ⟨d, rest, hhead, hd, hlt⟩ := Text.head_toDigits hpos
    have hzero : d.digitChar ≠ '0' := by
      have hall : ∀ d : Fin 10, 0 < d.val → d.val.digitChar ≠ '0' := by decide
      exact hall ⟨d, hlt⟩ hd
    have hread : Text.numeral? 10 (d.digitChar :: rest) = some n := by
      rw [← hhead, Text.numeral?_toDigits]
    rw [hhead, index?]
    case x_1 => exact fun h => hzero (List.cons.inj h).1
    case x_2 => exact List.cons_ne_nil _ _
    case x_3 => exact fun _ h => hzero (List.cons.inj h).1
    exact hread

end Pointer

/-! ## Places -/

namespace Value

/-- The part to which a token leads: the member of an object with a name, or the element of an array
with an index. -/
def child? : Value → Token → Option Value
  | .object members, .key name => Members.get? members name
  | .array elements, .index i => elements[i]?
  | _, _ => none

/-- The value at a place, gone to token by token. -/
def follow : Value → Path → Option Value
  | v, [] => some v
  | v, t :: rest => (v.child? t).bind fun w => w.follow rest

/-- What a text means as a step from a value: an index in an array, a name in an object. -/
def step? (v : Value) (text : String) : Option Token :=
  match v with
  | .array _ => (Pointer.index? text.toList).map .index
  | .object _ => some (.key text)
  | _ => none

/-- The place to which texts lead step by step, and the value there. -/
def locate : Value → List String → Option (Path × Value)
  | v, [] => some ([], v)
  | v, text :: rest => do
    let t ← v.step? text
    let w ← v.child? t
    let (path, found) ← w.locate rest
    return (t :: path, found)

/-- The place to which a pointer leads, and the value there. -/
def resolve (v : Value) (pointer : String) : Option (Path × Value) :=
  (Pointer.tokens? pointer).bind v.locate

variable {v w : Value} {path : Path}

/-- The text of a token that leads to a part is taken for that token. -/
theorem step?_text {t : Token} (h : v.child? t = some w) : v.step? t.text = some t := by
  cases t with
  | key name =>
      cases v with
      | object members => rfl
      | _ => cases h
  | index i =>
      cases v with
      | array elements =>
          show (Pointer.index? (toString i).toList).map Token.index = some (.index i)
          rw [Pointer.index?_toString]
          rfl
      | _ => cases h

theorem locate_texts (h : v.follow path = some w) :
    v.locate (path.map Token.text) = some (path, w) := by
  induction path generalizing v with
  | nil =>
      obtain rfl : v = w := Option.some.inj h
      rfl
  | cons t rest ih =>
      obtain ⟨part, hpart, hrest⟩ := Option.bind_eq_some_iff.mp h
      rw [List.map_cons, locate, step?_text hpart]
      simp only [bind, Option.bind, hpart, ih hrest, pure]

/-- **A pointer leads where its tokens lead**, in every document in which they lead anywhere. -/
theorem resolve_pointer (h : v.follow path = some w) :
    v.resolve path.pointer = some (path, w) := by
  rw [resolve, Pointer.tokens?_pointer]
  exact locate_texts h

end Value

end JsonSchema
