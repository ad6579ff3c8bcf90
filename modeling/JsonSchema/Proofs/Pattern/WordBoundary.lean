import JsonSchema.Proofs.Pattern.ClassMeaning
import JsonSchema.Proofs.Pattern.Expansion

/-!
# `JsonSchema.Proofs.Pattern.WordBoundary` — word boundaries are ASCII, and the two are complements

The escapes for a word boundary and for its contrary are expanded to a choice of two pairs of looks,
behind the place and ahead of it, for an ASCII word character. The matcher reads that text as the same
expression wherever it is put in a pattern, and no look moves on. So each of the two matches without
taking anything, or not at all, and at every place of every text it is exactly one of them that matches.

## Contents
- **Reading.** `Cursor.IsPlain`, `Quiet`, `ReadsAtom` and `ReadsInside`, and the steps of the reader.
- **Groups.** `ReadsInside.lookAround`, `ReadsInside.group`, `ReadsAtom.branch`, `ReadsInside.bar`:
  reading composes.
- **Boundaries.** `sides`, `boundary` with their texts, and `readsAtom_boundary`.
- **Matching.** `AtWordBoundary`, `ways_lookAround`, `ways_boundary`.
- **Escapes.** `Escapes`, and the main statement `wordBoundary_complementary`.
-/

namespace JsonSchema.Pattern

open Notation Pattern.Bracket

/-! ## Reading -/

/-- No comment and no blank is skipped at the start of a text. -/
def Unskipped (rest : List Char) : Prop := ∀ extended, Notation.skip extended .between rest = some rest

/-- Neither a comment nor a count is at the start of a text. -/
structure Quiet (rest : List Char) : Prop where
  unskipped : Unskipped rest
  uncounted : ∀ extended, bounds? extended rest = none

/-- Case matters at a place of a pattern, and groups are not referred to by name and by number alike: a
pattern that has both is none. -/
structure Notation.Cursor.IsPlain (c : Cursor) : Prop where
  caseMatters : c.flags.insensitive = false
  oneNotation : ¬(c.numbered = true ∧ ¬c.names.isEmpty = true)

/-- **A text is read as an atom**, whatever follows it and wherever it stands, at most so many groups
deep. -/
def ReadsAtom (depth : Nat) (cs : List Char) (e : Expr) : Prop :=
  ∀ (c : Cursor) (rest : List Char), c.IsPlain →
    atom (pattern depth) (c.at (cs ++ rest)) = some (e, c.at rest)

/-- A text is all that a group has inside. -/
def ReadsInside (depth : Nat) (cs : List Char) (e : Expr) : Prop :=
  ∀ (c : Cursor) (rest : List Char), c.IsPlain →
    pattern depth (c.at (cs ++ ')' :: rest)) = some (e, c.at (')' :: rest))

theorem quiet_close (rest : List Char) : Quiet (')' :: rest) :=
  ⟨fun extended => by cases extended <;> rfl, fun _ => rfl⟩

theorem quiet_bar (rest : List Char) : Quiet ('|' :: rest) :=
  ⟨fun extended => by cases extended <;> rfl, fun _ => rfl⟩

section Steps

variable {inner onePiece oneBranch : Cursor → Read} {c : Cursor} {e : Expr} {rest rest' : List Char}
  {done : List Expr}

theorem skip_of_unskipped (h : Unskipped rest) : (c.at rest).skip = some (c.at rest) := by
  show (Notation.skip c.flags.extended .between rest).map _ = _
  rw [h c.flags.extended]
  rfl

/-- An atom without a count is a piece. -/
theorem piece_of_atom (h : atom inner (c.at rest) = some (e, c.at rest')) (hquiet : Quiet rest') :
    piece (atom inner) (c.at rest) = some (e, c.at rest') := by
  have hbounds : bounds? (c.at rest').flags.extended (c.at rest').rest = none :=
    hquiet.uncounted c.flags.extended
  rw [piece, h]
  simp only [Option.bind_eq_bind, Option.bind_some, skip_of_unskipped hquiet.unskipped, hbounds]

/-- A branch goes on behind a piece that has taken something. -/
theorem branch_piece (h : onePiece (c.at rest) = some (e, c.at rest')) (hlt : rest'.length < rest.length)
    (he : e.isEmpty = false) :
    branch onePiece (c.at rest) done = branch onePiece (c.at rest') (e :: done) := by
  have hne : (c.at rest).rest ≠ [] := List.ne_nil_of_length_pos (Nat.lt_of_le_of_lt (Nat.zero_le _) hlt)
  rw [branch, if_neg hne, h]
  simp only [he, Bool.false_eq_true, if_false]
  exact if_pos hlt

/-- A branch ends at a bar, and at the bracket that closes the group. -/
theorem branch_end {d : Char} (hd : d = ')' ∨ d = '|') :
    branch (piece (atom inner)) (c.at (d :: rest)) done =
      some (Expr.seqs done.reverse, c.at (d :: rest)) := by
  have hquiet : Quiet (d :: rest) := by
    rcases hd with rfl | rfl
    · exact quiet_close rest
    · exact quiet_bar rest
  have hatom : atom inner (c.at (d :: rest)) = some (.empty, c.at (d :: rest)) := by
    rw [atom, skip_of_unskipped hquiet.unskipped]
    rcases hd with rfl | rfl <;> rfl
  have hne : (c.at (d :: rest)).rest ≠ [] := List.cons_ne_nil d rest
  rw [branch, if_neg hne, piece_of_atom hatom hquiet]
  exact if_neg (Nat.lt_irrefl _)

theorem branches_bar (h : oneBranch (c.at rest) = some (e, c.at ('|' :: rest')))
    (hlt : rest'.length < rest.length) :
    branches oneBranch (c.at rest) done = branches oneBranch (c.at rest') (e :: done) := by
  rw [branches, h]
  simp only [skip_of_unskipped (quiet_bar rest').unskipped]
  exact if_pos hlt

theorem branches_close (hc : c.IsPlain) (h : oneBranch (c.at rest) = some (e, c.at (')' :: rest'))) :
    branches oneBranch (c.at rest) done = some (Expr.alts (e :: done).reverse, c.at (')' :: rest')) := by
  rw [branches, h]
  simp only [skip_of_unskipped (quiet_close rest').unskipped]
  exact if_neg fun hboth => hc.oneNotation hboth.2

end Steps

/-! ## Groups -/

/-- The set that the matcher reads for a word character. -/
def asciiWord : CharSet :=
  .union (.union (.union (.union .empty (.between 'A' 'Z')) (.between 'a' 'z')) (.between '0' '9'))
    (.single '_')

/-- A look behind the place or ahead of it. -/
def lookAround (behind negative : Bool) (e : Expr) : Expr :=
  if behind then .lookBehind negative e.minWidth e else .lookAhead negative e

/-- What tells a look from other groups. -/
def lookMark (behind negative : Bool) : List Char :=
  (if behind then ['<'] else []) ++ [if negative then '!' else '=']

/-- How a look is written, around what is looked for. -/
def lookText (behind negative : Bool) (cs : List Char) : List Char :=
  '(' :: '?' :: (lookMark behind negative ++ (cs ++ [')']))

section Reads

variable {depth : Nat} {cs cs' : List Char} {e e' : Expr}

theorem readsAtom_asciiWord (depth : Nat) : ReadsAtom depth "[A-Za-z0-9_]".toList (.set asciiWord) := by
  intro c rest hc
  have hcut : wholeClass? c.flags ("A-Za-z0-9_]".toList ++ rest) =
      some ("A-Za-z0-9_]".toList.map .raw, rest) := rfl
  have hread : read? c.flags.insensitive ("A-Za-z0-9_]".toList.map .raw) = some (asciiWord, []) := by
    rw [hc.caseMatters]
    rfl
  have hunskipped : Unskipped ("[A-Za-z0-9_]".toList ++ rest) := fun extended => by cases extended <;> rfl
  rw [atom, skip_of_unskipped hunskipped]
  exact bracket_set hcut hread

/-- What is read as an atom may be all that a group has inside. -/
theorem ReadsAtom.inside (h : ReadsAtom depth cs e) (hcs : cs ≠ []) (he : e.isEmpty = false) :
    ReadsInside (depth + 1) cs e := by
  intro c rest hc
  have hlt : (')' :: rest).length < (cs ++ ')' :: rest).length := by
    rw [List.length_append]
    exact Nat.lt_add_of_pos_left (List.length_pos_iff.mpr hcs)
  have hbranch : branch (piece (atom (pattern depth))) (c.at (cs ++ ')' :: rest)) [] =
      some (e, c.at (')' :: rest)) := by
    rw [branch_piece (piece_of_atom (h c _ hc) (quiet_close rest)) hlt he, branch_end (.inl rfl)]
    rfl
  rw [pattern, branches_close hc hbranch]
  rfl

/-- The brackets of a group are read around what it has inside. -/
theorem ReadsInside.enclosed (h : ReadsInside depth cs e) (wrap : Expr → Option Expr)
    (hwrap : wrap e = some e') {c : Cursor} (hc : c.IsPlain) (start rest : List Char) :
    Notation.enclosed (pattern depth) wrap (c.at start) (cs ++ ')' :: rest) = some (e', c.at rest) := by
  have hinside : pattern depth ((c.at start).at (cs ++ ')' :: rest)) = some (e, c.at (')' :: rest)) :=
    h c rest hc
  rw [Notation.enclosed, hinside]
  show (wrap e).bind _ = _
  rw [hwrap]
  rfl

/-- A group with a mark of its own is no comment. -/
theorem quiet_group {d : Char} (hd : d ≠ '#') (body : List Char) : Quiet ('(' :: '?' :: d :: body) := by
  refine ⟨fun extended => ?_, fun _ => rfl⟩
  rw [Notation.skip]
  · cases extended <;> rfl
  · rintro more - heq
    exact hd (List.cons.inj (List.cons.inj heq).2).1

theorem atom_group {inner : Cursor → Read} {c : Cursor} {d : Char} (hd : d ≠ '#') (body : List Char) :
    atom inner (c.at ('(' :: '?' :: d :: body)) =
      group inner (c.at ('(' :: '?' :: d :: body)) ('?' :: d :: body) := by
  rw [atom, skip_of_unskipped (quiet_group hd body).unskipped]
  rfl

theorem unskipped_mark (body : List Char) : Unskipped ('?' :: body) := fun extended => by
  cases extended <;> rfl

/-- The mark of a look tells how what is inside is looked for. -/
theorem group_look (inner : Cursor → Read) (c : Cursor) (behind negative : Bool) (start body : List Char) :
    group inner (c.at start) ('?' :: (lookMark behind negative ++ body)) =
      enclosed inner (if behind then Expr.behind? negative else some ∘ .lookAhead negative)
        (c.at ('?' :: (lookMark behind negative ++ body))) body := by
  rw [group]
  show (c.at ('?' :: (lookMark behind negative ++ body))).skip.bind _ = _
  rw [skip_of_unskipped (unskipped_mark _)]
  cases behind <;> cases negative <;> rfl

/-- What a group has inside is looked for around the place. -/
theorem ReadsInside.lookAround (h : ReadsInside depth cs e) (hfixed : e.fixedWidth = true)
    (behind negative : Bool) :
    ReadsAtom depth (lookText behind negative cs) (lookAround behind negative e) := by
  intro c rest hc
  have htext : lookText behind negative cs ++ rest =
      '(' :: '?' :: (lookMark behind negative ++ (cs ++ ')' :: rest)) := by
    simp [lookText]
  have hatom : atom (pattern depth) (c.at (lookText behind negative cs ++ rest)) =
      group (pattern depth) (c.at (lookText behind negative cs ++ rest))
        ('?' :: (lookMark behind negative ++ (cs ++ ')' :: rest))) := by
    rw [htext]
    cases behind <;> cases negative <;> exact atom_group (by decide) _
  rw [hatom, group_look]
  refine h.enclosed _ ?_ hc _ _
  cases behind with
  | false => rfl
  | true => exact if_pos hfixed

/-- A group that holds nothing is read as what it has inside. -/
theorem ReadsInside.group (h : ReadsInside depth cs e) :
    ReadsAtom depth ('(' :: '?' :: ':' :: (cs ++ [')'])) e := by
  intro c rest hc
  have htext : '(' :: '?' :: ':' :: (cs ++ [')']) ++ rest = '(' :: '?' :: ':' :: (cs ++ ')' :: rest) := by
    simp
  have hinside := h c rest hc
  generalize hbody : cs ++ ')' :: rest = body at htext hinside
  have hflags : flagList c.flags.extended ((':' :: body).length + 1) (':' :: body) c.flags false none =
      some (c.flags, false, body) := by
    rw [flagList]
    cases c.flags.extended <;> rfl
  rw [htext, atom_group (by decide), Notation.group]
  show (c.at ('?' :: ':' :: body)).skip.bind _ = _
  rw [skip_of_unskipped (unskipped_mark _)]
  show flagGroup (pattern depth) (c.at ('?' :: ':' :: body)) (':' :: body) = _
  rw [flagGroup]
  show (flagList c.flags.extended ((':' :: body).length + 1) (':' :: body) c.flags false none).bind _ = _
  rw [hflags]
  show (pattern depth (c.at body)).bind _ = _
  rw [hinside]
  rfl

/-- Two atoms are read one after the other. -/
theorem ReadsAtom.branch (h : ReadsAtom depth cs e) (h' : ReadsAtom depth cs' e')
    (hquiet : ∀ rest, Quiet (cs' ++ rest)) (he : e.isEmpty = false) (he' : e'.isEmpty = false)
    (hcs : 0 < cs.length) (hcs' : 0 < cs'.length) {c : Cursor} (hc : c.IsPlain) {d : Char}
    (hd : d = ')' ∨ d = '|') (rest : List Char) :
    Notation.branch (piece (atom (pattern depth))) (c.at (cs ++ (cs' ++ d :: rest))) [] =
      some (.seq e e', c.at (d :: rest)) := by
  have hquiet' : Quiet (d :: rest) := by
    rcases hd with rfl | rfl
    · exact quiet_close rest
    · exact quiet_bar rest
  have hlt : (cs' ++ d :: rest).length < (cs ++ (cs' ++ d :: rest)).length := by
    simp only [List.length_append]
    omega
  have hlt' : (d :: rest).length < (cs' ++ d :: rest).length := by
    simp only [List.length_append]
    omega
  rw [branch_piece (piece_of_atom (h c _ hc) (hquiet _)) hlt he,
    branch_piece (piece_of_atom (h' c _ hc) hquiet') hlt' he', branch_end hd]
  rfl

/-- Two branches of a group have a bar between them. -/
theorem ReadsInside.bar {left right : Expr}
    (h : ∀ (c : Cursor) rest, c.IsPlain → Notation.branch (piece (atom (pattern depth)))
      (c.at (cs ++ '|' :: rest)) [] = some (left, c.at ('|' :: rest)))
    (h' : ∀ (c : Cursor) rest, c.IsPlain → Notation.branch (piece (atom (pattern depth)))
      (c.at (cs' ++ ')' :: rest)) [] = some (right, c.at (')' :: rest))) :
    ReadsInside (depth + 1) (cs ++ '|' :: cs') (.alt left right) := by
  intro c rest hc
  have hlt : (cs' ++ ')' :: rest).length < (cs ++ '|' :: (cs' ++ ')' :: rest)).length := by
    simp only [List.length_append, List.length_cons]
    omega
  have htext : cs ++ '|' :: cs' ++ ')' :: rest = cs ++ '|' :: (cs' ++ ')' :: rest) := by simp
  rw [htext, pattern, branches_bar (h c _ hc) hlt, branches_close hc (h' c _ hc)]
  rfl

end Reads

/-! ## Boundaries -/

/-- How what is looked for is written: a word character. -/
def wordText : List Char := "[A-Za-z0-9_]".toList

/-- A look behind the place and one ahead of it. -/
def sides (notBehind notAhead : Bool) : Expr :=
  .seq (lookAround true notBehind (.set asciiWord)) (lookAround false notAhead (.set asciiWord))

/-- How the two looks are written. -/
def sidesText (notBehind notAhead : Bool) : List Char :=
  lookText true notBehind wordText ++ lookText false notAhead wordText

/-- A word character behind the place, or none; ahead of it the contrary, or the same. -/
def boundary (differ : Bool) : Expr := .alt (sides false differ) (sides true (!differ))

/-- How the choice is written, in a group that holds nothing. -/
def boundaryText (differ : Bool) : List Char :=
  '(' :: '?' :: ':' :: (sidesText false differ ++ '|' :: sidesText true (!differ) ++ [')'])

theorem readsAtom_boundary (depth : Nat) (differ : Bool) :
    ReadsAtom (depth + 2) (boundaryText differ) (boundary differ) := by
  have hlook : ∀ behind negative, ReadsAtom (depth + 1) (lookText behind negative wordText)
      (lookAround behind negative (.set asciiWord)) :=
    fun behind negative =>
      ((readsAtom_asciiWord depth).inside (by decide) rfl).lookAround rfl behind negative
  have hahead : ∀ negative rest, Quiet (lookText false negative wordText ++ rest) := by
    intro negative rest
    cases negative <;> exact quiet_group (by decide) _
  have hsides : ∀ notBehind notAhead d, d = ')' ∨ d = '|' → ∀ (c : Cursor) rest, c.IsPlain →
      Notation.branch (piece (atom (pattern (depth + 1))))
          (c.at (sidesText notBehind notAhead ++ d :: rest)) [] =
        some (sides notBehind notAhead, c.at (d :: rest)) := by
    intro notBehind notAhead d hd c rest hc
    rw [sidesText, List.append_assoc]
    exact (hlook true notBehind).branch (hlook false notAhead) (hahead notAhead) rfl rfl (Nat.succ_pos _)
      (Nat.succ_pos _) hc hd rest
  exact (ReadsInside.bar (hsides false differ '|' (.inr rfl)) (hsides true (!differ) ')' (.inl rfl))).group

/-! ## Matching -/

/-- Whether a character exists and is one of `A-Z`, `a-z`, `0-9` and `_`. -/
def isAsciiWord (c : Option Char) : Bool := c.any fun c => c.isAlphanum || c == '_'

/-- **A word boundary**: of the characters before a position and after it exactly one exists and is a word
character. -/
def AtWordBoundary (text : Array Char) (pos : Nat) : Prop :=
  isAsciiWord (charBefore? text pos) ≠ isAsciiWord (charAt? text pos)

instance (text : Array Char) (pos : Nat) : Decidable (AtWordBoundary text pos) :=
  inferInstanceAs (Decidable (_ ≠ _))

theorem contains_asciiWord (c : Char) : asciiWord.contains c.toNat = (c.isAlphanum || c == '_') := by
  rw [Bool.eq_iff_iff, Bool.or_eq_true, beq_iff_eq, asciiWord_iff]
  simp only [asciiWord, CharSet.contains, Bool.or_eq_true, contains_between, contains_single, or_assoc,
    Bool.false_eq_true, false_or]

section Ways

variable (text : Array Char) (p : Place)

/-- A word character is taken where there is one. -/
theorem ways_asciiWord :
    (Expr.set asciiWord).ways text p =
      if isAsciiWord (charAt? text p.pos) then [{ p with pos := p.pos + 1 }] else [] := by
  rw [Expr.ways]
  cases charAt? text p.pos with
  | none => rfl
  | some c =>
      simp only [contains_asciiWord]
      rfl

/-- What is looked for behind a place is the character before it. -/
theorem ways_behind :
    (if 1 ≤ p.pos then (Expr.set asciiWord).ways text { p with pos := p.pos - 1 } else []) =
      if isAsciiWord (charBefore? text p.pos) then [p] else [] := by
  by_cases hpos : 1 ≤ p.pos
  · have hbefore : charBefore? text p.pos = charAt? text (p.pos - 1) := if_neg (Nat.pos_iff_ne_zero.mp hpos)
    rw [if_pos hpos, ways_asciiWord, hbefore, Nat.sub_add_cancel hpos]
  · have hbefore : charBefore? text p.pos = none := if_pos (Nat.eq_zero_of_not_pos hpos)
    rw [if_neg hpos, hbefore]
    rfl

/-- **A look stays where it is**, and tells whether the character on its side is a word character. -/
theorem ways_lookAround (behind negative : Bool) :
    (lookAround behind negative (.set asciiWord)).ways text p =
      if isAsciiWord (if behind then charBefore? text p.pos else charAt? text p.pos) = !negative then [p]
      else [] := by
  cases behind with
  | false =>
      show (Expr.lookAhead negative (.set asciiWord)).ways text p =
        if isAsciiWord (charAt? text p.pos) = !negative then [p] else []
      unfold Expr.ways
      simp only [ways_asciiWord]
      cases isAsciiWord (charAt? text p.pos) <;> cases negative <;> rfl
  | true =>
      show (Expr.lookBehind negative 1 (.set asciiWord)).ways text p =
        if isAsciiWord (charBefore? text p.pos) = !negative then [p] else []
      unfold Expr.ways
      simp only [ways_behind]
      cases isAsciiWord (charBefore? text p.pos) <;> cases negative <;> rfl

theorem ways_sides (notBehind notAhead : Bool) :
    (sides notBehind notAhead).ways text p =
      if isAsciiWord (charBefore? text p.pos) = !notBehind ∧ isAsciiWord (charAt? text p.pos) = !notAhead
      then [p] else [] := by
  have hahead := ways_lookAround text p false notAhead
  rw [sides, Expr.ways, ways_lookAround]
  simp only [if_true, Bool.false_eq_true, if_false] at hahead ⊢
  by_cases hbehind : isAsciiWord (charBefore? text p.pos) = !notBehind
  · rw [if_pos hbehind, List.flatMap_singleton, hahead]
    by_cases hnext : isAsciiWord (charAt? text p.pos) = !notAhead
    · rw [if_pos hnext, if_pos ⟨hbehind, hnext⟩]
      simp [distinct]
    · rw [if_neg hnext, if_neg fun h => hnext h.2]
      rfl
  · rw [if_neg hbehind, if_neg fun h => hbehind h.1]
    rfl

/-- **A boundary takes nothing**, and matches where the sides differ, or where they do not. -/
theorem ways_boundary (differ : Bool) :
    (boundary differ).ways text p =
      if (isAsciiWord (charBefore? text p.pos) != isAsciiWord (charAt? text p.pos)) = differ then [p]
      else [] := by
  rw [boundary, Expr.ways, ways_sides, ways_sides]
  cases isAsciiWord (charBefore? text p.pos) <;> cases isAsciiWord (charAt? text p.pos) <;> cases differ <;>
    simp [distinct]

end Ways

/-! ## Escapes -/

/-- **An escape stands for an expression** outside of classes: it is expanded by itself wherever a
pattern has it, and what it is expanded to is read as the expression, alone and inside of groups. -/
structure Escapes (c : Char) (e : Expr) : Prop where
  expanded : ∀ front back, Dialect.scanFrom false front = some false →
    Dialect.expandFrom false (front ++ '\\' :: c :: back) =
      Dialect.expandFrom false front ++
        ((Dialect.expand (String.ofList ['\\', c])).toList ++ Dialect.expandFrom false back)
  alone : parse? (Dialect.expand (String.ofList ['\\', c])) = some e
  within : ∀ depth, ReadsAtom (depth + 2) (Dialect.expand (String.ofList ['\\', c])).toList e

theorem escapes_boundary {c : Char} {differ : Bool}
    (hexpand : Dialect.expandFrom false ['\\', c] = boundaryText differ) : Escapes c (boundary differ) := by
  have htext : (Dialect.expand (String.ofList ['\\', c])).toList = boundaryText differ := by
    rw [Dialect.expand_toList, String.toList_ofList, hexpand]
  refine ⟨fun front back hscan => ?_, ?_, fun depth => ?_⟩
  · have hpair : Dialect.scanFrom false ['\\', c] = some false := rfl
    have hone : Dialect.expandFrom false ('\\' :: c :: back) =
        Dialect.expandFrom false ['\\', c] ++ Dialect.expandFrom false back :=
      Dialect.expandFrom_append hpair back
    rw [Dialect.expandFrom_append hscan, hone, htext, hexpand]
  · have hatom := readsAtom_boundary 61 differ (start (Dialect.expand (String.ofList ['\\', c]))) []
      ⟨rfl, fun h => absurd h.1 Bool.false_ne_true⟩
    rw [List.append_nil, ← htext] at hatom
    refine parse?_atom ?_ rfl hatom ?_ ?_
    · rw [htext]
      exact List.cons_ne_nil _ _
    · cases differ <;> rfl
    · cases differ <;> rfl
  · rw [htext]
    exact readsAtom_boundary depth differ

/-- **Word boundaries are ASCII, and the two are complements.** Each of the two escapes stands for one
expression. At every place of a text the one for a boundary has a single way to match, which takes
nothing, if of the characters before the place and after it exactly one exists and is an ASCII word
character, and no way else; with the other it is the other way round. -/
theorem wordBoundary_complementary :
    ∃ wordBoundary notWordBoundary : Expr, Escapes 'b' wordBoundary ∧ Escapes 'B' notWordBoundary ∧
      ∀ (text : Array Char) (p : Place),
        wordBoundary.ways text p = (if AtWordBoundary text p.pos then [p] else []) ∧
        notWordBoundary.ways text p = if AtWordBoundary text p.pos then [] else [p] := by
  refine ⟨boundary true, boundary false, escapes_boundary (by decide), escapes_boundary (by decide),
    fun text p => ?_⟩
  rw [ways_boundary, ways_boundary]
  by_cases h : AtWordBoundary text p.pos
  · have hdiffer : (isAsciiWord (charBefore? text p.pos) != isAsciiWord (charAt? text p.pos)) = true :=
      bne_iff_ne.mpr h
    rw [hdiffer, if_pos h, if_pos h]
    exact ⟨rfl, rfl⟩
  · have hsame : (isAsciiWord (charBefore? text p.pos) != isAsciiWord (charAt? text p.pos)) = false :=
      Bool.eq_false_iff.mpr fun hne => h (bne_iff_ne.mp hne)
    rw [hsame, if_neg h, if_neg h]
    exact ⟨rfl, rfl⟩

/-- A letter that is not ASCII delimits a word, and so does an end of the text. -/
example :
    [0, 1, 2, 3, 4].map (fun pos => decide (AtWordBoundary #['é', 'a', '_', ' '] pos)) =
      [false, true, false, true, false] := by
  decide

end JsonSchema.Pattern
