import JsonSchema.Proofs.Pattern.ClassReading
import JsonSchema.Proofs.Schema.Keywords

/-!
# `JsonSchema.Proofs.Pattern.ClassMeaning` — which classes keep their meaning

A pattern that is one character class is rewritten for the matcher, and the matcher reads it in its own
notation, which has operators between items and takes a closing bracket that comes first for a member. So the
meaning of a class is kept where no operator is met, and an empty class is no pattern to the matcher.

## Contents
- **One class.** `atom_bracket`: a class is read by `bracket` alone.
- **One atom.** `pattern_atom`, `parse?_atom`: a pattern that is one atom is read as the atom.
- **Search.** `found_set`: where a set is found.
- **Meaning.** Main statement `class_meaning`; `class_meaning_lost`, where an operator is met.
-/

namespace JsonSchema.Pattern

open Notation Pattern.Bracket

/-! ## One class -/

section OneClass

variable {c : Cursor} {body : List Char}

/-- Nothing is skipped where no comment begins. -/
theorem skip_of_head (hextended : c.flags.extended = false) (hhead : ∀ d ∈ c.rest.head?, d ≠ '(') :
    c.skip = some c := by
  obtain ⟨rest, flags, groups, names, asked, numbered, limit⟩ := c
  simp only at hextended hhead
  rw [Cursor.skip, hextended]
  cases rest with
  | nil => rfl
  | cons d rest =>
      have hstay : Notation.skip false .between (d :: rest) = some (d :: rest) := by
        rw [Notation.skip]
        · rfl
        · rintro more heq
          exact absurd heq (hhead d rfl)
      rw [hstay]
      rfl

variable (hextended : c.flags.extended = false) (hrest : c.rest = '[' :: body)
include hextended hrest

theorem atom_bracket (inner : Cursor → Read) : atom inner c = bracket c body := by
  have hhead : ∀ d ∈ c.rest.head?, d ≠ '(' := by
    rw [hrest]
    rintro d hd rfl
    exact absurd (Option.some.inj hd) (by decide)
  rw [atom, skip_of_head hextended hhead]
  simp only [Option.bind_eq_bind, Option.bind_some, hrest]

/-- A class that is no set to the matcher is no pattern. -/
theorem pattern_bracket_none (depth : Nat) (hbracket : bracket c body = none) :
    pattern (depth + 1) c = none := by
  have hpiece : piece (atom (pattern depth)) c = none := by
    rw [piece, atom_bracket hextended hrest, hbracket]
    rfl
  have hbranch : branch (piece (atom (pattern depth))) c [] = none := by
    rw [branch, if_neg (by rw [hrest]; exact List.cons_ne_nil _ _), hpiece]
  rw [pattern, branches, hbranch]

end OneClass

theorem bracket_none {c : Cursor} {body : List Char} (h : wholeClass? c.flags body = none) :
    bracket c body = none := by
  rw [bracket, h]
  rfl

theorem bracket_set {c : Cursor} {body rest : List Char} {tokens : List Bracket.Token} {s : CharSet}
    (h : wholeClass? c.flags body = some (tokens, rest))
    (hs : read? c.flags.insensitive tokens = some (s, [])) :
    bracket c body = some (.set s, c.at rest) := by
  rw [bracket, h]
  simp only [Option.bind_eq_bind, Option.bind_some, hs]
  rfl

/-! ## One atom -/

/-- **A pattern that is one atom** is read as the atom. -/
theorem pattern_atom {c : Cursor} {e : Expr} (depth : Nat) (hnumbered : c.numbered = false) (hne : c.rest ≠ [])
    (he : e.isEmpty = false) (hatom : atom (pattern depth) c = some (e, c.at [])) :
    pattern (depth + 1) c = some (e, c.at []) := by
  have hend : (c.at []).skip = some (c.at []) := rfl
  have hdone : (c.at []).rest = [] := rfl
  have hpiece : piece (atom (pattern depth)) c = some (e, c.at []) := by
    rw [piece, hatom]
    simp only [Option.bind_eq_bind, Option.bind_some, hend]
    rfl
  have hbranch : branch (piece (atom (pattern depth))) c [] = some (e, c.at []) := by
    rw [branch, if_neg hne, hpiece]
    -- the atom has taken all there is, and the next round ends the branch
    have hlt : (c.at []).rest.length < c.rest.length := List.length_pos_iff.mpr hne
    simp only [he, Bool.false_eq_true, if_false]
    rw [if_pos hlt, branch, if_pos hdone]
    rfl
  rw [pattern, branches, hbranch]
  simp only [hend, hdone]
  exact if_neg fun h => absurd (hnumbered ▸ h.2.1) Bool.false_ne_true

/-- The options that a pattern begins with. -/
def startFlags : Flags := ⟨false, false, false, false, false⟩

/-- The place that a pattern is read from. -/
def start (text : String) : Cursor := ⟨text.toList, startFlags, 0, [], [], false, text.utf8ByteSize / 2⟩

theorem parse?_atom {text : String} {e : Expr} (hne : text.toList ≠ []) (he : e.isEmpty = false)
    (hatom : atom (pattern 63) (start text) = some (e, (start text).at [])) (hgroups : e.keepGroups [] = e)
    (hbounded : e.wellBounded = true) : parse? text = some e := by
  have hpattern : pattern maxDepth (start text) = some (e, (start text).at []) :=
    pattern_atom 63 rfl hne he hatom
  rw [start, startFlags] at hpattern
  rw [parse?, hpattern]
  simp only [Option.bind_eq_bind, Option.bind_some, Cursor.at, hgroups, hbounded, if_true]

section Text

variable {text : String} {body : List Char} (htext : text.toList = '[' :: body)
include htext

theorem parse?_none (h : wholeClass? startFlags body = none) : parse? text = none := by
  have hpattern : pattern maxDepth (start text) = none := pattern_bracket_none rfl htext 63 (bracket_none h)
  rw [start, startFlags] at hpattern
  rw [parse?, hpattern]
  rfl

theorem parse?_set {tokens : List Bracket.Token} {s : CharSet}
    (h : wholeClass? startFlags body = some (tokens, [])) (hs : read? false tokens = some (s, [])) :
    parse? text = some (.set s) := by
  have hatom : atom (pattern 63) (start text) = some (.set s, (start text).at []) := by
    rw [atom_bracket rfl htext]
    exact bracket_set h hs
  exact parse?_atom (htext ▸ List.cons_ne_nil _ _) rfl hatom rfl rfl

end Text

/-! ## Search -/

/-- **A set is found** in the texts that have one of its characters. -/
theorem found_set (s : CharSet) (text : String) :
    (Pattern.mk (.set s)).found text = true ↔ ∃ d ∈ text.toList, s.contains d.toNat = true := by
  have hat : ∀ pos, charAt? text.toList.toArray pos = text.toList[pos]? := fun pos => List.getElem?_toArray
  rw [Pattern.found_iff]
  constructor
  · rintro ⟨pos, -, hways⟩
    simp only [Expr.ways, hat] at hways
    cases hd : text.toList[pos]? with
    | none => exact absurd (by rw [hd]) hways
    | some d =>
        refine ⟨d, List.mem_of_getElem? hd, ?_⟩
        rw [hd] at hways
        by_cases hs : s.contains d.toNat = true
        · exact hs
        · exact absurd (if_neg hs) hways
  · rintro ⟨d, hmem, hs⟩
    obtain ⟨pos, hpos⟩ := List.getElem?_of_mem hmem
    have hlt : pos < text.toList.length := (List.getElem?_eq_some_iff.mp hpos).1
    refine ⟨pos, Nat.le_of_lt (String.length_toList ▸ hlt), ?_⟩
    simp only [Expr.ways, hat, hpos, if_pos hs]
    exact List.cons_ne_nil _ _

/-! ## Meaning -/

/-- **What the notation of a class means to the matcher.** A class whose ranges are in order and whose items
are no operators of the matcher's notation keeps its meaning: unless it is empty it is a pattern, and that is
found in the texts that have a character which the class holds. An empty class is no pattern. -/
theorem class_meaning (c : WrittenClass) (hordered : ∀ i ∈ c.items, i.Ordered)
    (hfree : c.isOperatorFree = true) :
    (c.atoms = [] → Pattern.compile? (String.ofList c.text) = none) ∧
      (c.atoms ≠ [] → ∃ p, Pattern.compile? (String.ofList c.text) = some p ∧
        ∀ text, p.found text = true ↔ ∃ d ∈ text.toList, c.Holds d) := by
  constructor
  · intro hempty
    have hcut : wholeClass? startFlags ((if c.complemented then ['^'] else []) ++
        (c.atoms.flatMap ClassAtom.expansion ++ [']'])) = none := by
      rw [hempty]
      cases c.complemented <;> rfl
    rw [Pattern.compile?, parse?_none (expand_text c) hcut]
    rfl
  · intro hne
    obtain ⟨s, hs, hcontains⟩ := read?_written c hne hordered hfree
    have hparse := parse?_set (expand_text c) (wholeClass?_written startFlags c hne) hs
    refine ⟨⟨.set s⟩, by rw [Pattern.compile?, hparse]; rfl, fun text => ?_⟩
    simp only [found_set, hcontains]

/-- A complemented class with a hyphen at each end, shorthands, a bracket that opens, a range, and characters
that are no operators where they stand. -/
def crowdedClass : WrittenClass where
  complemented := true
  atoms := [.plain '-' (by decide), .shorthand .digit, .plain '[' (by decide), .plain '+' (by decide),
    .plain '-' (by decide), .plain '/' (by decide), .plain '&' (by decide), .escaped '-' (by decide),
    .plain '&' (by decide), .backspace, .plain '~' (by decide), .plain '-' (by decide)]
  caret := by decide

theorem class_meaning_crowded :
    (∀ i ∈ crowdedClass.items, i.Ordered) ∧ crowdedClass.isOperatorFree = true ∧
      ∃ p, Pattern.compile? "[^-\\d[+-/&\\-&\\b~-]" = some p ∧
        p.found "-7[.&~" = false ∧ p.found "-7]" = true := by
  have htext : String.ofList crowdedClass.text = "[^-\\d[+-/&\\-&\\b~-]" := by decide
  obtain ⟨p, hp, hfound⟩ := (class_meaning crowdedClass (by decide) (by decide)).2 (List.cons_ne_nil _ _)
  refine ⟨by decide, by decide, p, htext ▸ hp, Bool.eq_false_iff.mpr fun h => ?_, ?_⟩
  · obtain ⟨d, hd, hholds⟩ := (hfound _).mp h
    have hmem : d ∈ ['-', '7', '[', '.', '&', '~'] := hd
    simp only [List.mem_cons, List.not_mem_nil, or_false] at hmem
    rcases hmem with rfl | rfl | rfl | rfl | rfl | rfl <;> exact absurd hholds (by decide)
  · exact (hfound _).mpr ⟨']', by decide, by decide⟩

/-- The class `[a&&b]`. -/
def ampersandClass : WrittenClass where
  complemented := false
  atoms := [.plain 'a' (by decide), .plain '&' (by decide), .plain '&' (by decide), .plain 'b' (by decide)]
  caret := by decide

/-- **Where an operator is met, a class loses its meaning.** Two ampersands are an intersection to the matcher,
so the class `[a&&b]` matches none of the characters that it lists. -/
theorem class_meaning_lost :
    (∀ i ∈ ampersandClass.items, i.Ordered) ∧ ampersandClass.Holds 'a' ∧
      ∃ p, Pattern.compile? (String.ofList ampersandClass.text) = some p ∧ p.found "a" = false := by
  have hcut := wholeClass?_written startFlags ampersandClass (List.cons_ne_nil _ _)
  have hparse := parse?_set (expand_text ampersandClass) hcut rfl
  refine ⟨by decide, by decide, ⟨_⟩, by rw [Pattern.compile?, hparse]; rfl, ?_⟩
  refine Bool.eq_false_iff.mpr fun h => ?_
  obtain ⟨d, hd, hcontains⟩ := (found_set _ _).mp h
  obtain rfl : d = 'a' := List.mem_singleton.mp hd
  exact absurd hcontains (by decide)

end JsonSchema.Pattern
