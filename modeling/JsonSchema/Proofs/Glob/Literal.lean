import JsonSchema.Batch.Input

/-!
# `JsonSchema.Proofs.Glob.Literal` — a pattern that is a plain name

A pattern without signs, whose parts are names of files or directories, is searched like any other: from
the current directory one part further at a time. What it finds can only be the path that it writes. A
batch takes this path if it is there and no directory, and also if nothing is found; so such a pattern
always names one input, and it is the same whatever the files are.

## Contents
- **Names.** `Normal`: names in normal form without signs.
- **Reading.** `Piece.read_plain`, `Pattern.read_normal`.
- **Walking.** `Under`, `child_under`, `foldl_child`: one part after the other makes up the path.
- **Search.** `search_named`, `matches_eq`; `Literal`, and `resolve_normal`.
-/

namespace JsonSchema.Glob

/-! ## Names -/

/-- A character that is no sign of a pattern. -/
def Plain (c : Char) : Prop := c ≠ '*' ∧ c ≠ '?' ∧ c ≠ '['

instance (c : Char) : Decidable (Plain c) := inferInstanceAs (Decidable (_ ∧ _))

/-- A name in normal form without signs: no part of it is empty, stays in place, or leads upwards. -/
structure Normal (name : String) : Prop where
  plain : ∀ c ∈ name.toList, Plain c
  parts : ∀ part ∈ Files.parts name, part ≠ [] ∧ part ≠ ['.'] ∧ part ≠ ['.', '.']

instance (name : String) : Decidable (Normal name) :=
  @decidable_of_iff (Normal name)
    ((∀ c ∈ name.toList, Plain c) ∧
      ∀ part ∈ Files.parts name, part ≠ [] ∧ part ≠ ['.'] ∧ part ≠ ['.', '.'])
    ⟨fun h => ⟨h.1, h.2⟩, fun h => ⟨h.plain, h.parts⟩⟩
    (@instDecidableAnd _ _ (List.decidableBAll _ _) (List.decidableBAll _ _))

/-! ## Reading -/

theorem Piece.read_plain {cs : List Char} (h : ∀ c ∈ cs, Plain c) (place : Nat) (before : Option Char) :
    Piece.read place before cs = .ok (cs.map .exactly) := by
  induction cs generalizing place before with
  | nil => rw [Piece.read]; rfl
  | cons c rest ih =>
      obtain ⟨⟨hstar, hmark, hbracket⟩, hrest⟩ := List.forall_mem_cons.mp h
      rw [Piece.read, ih hrest]
      · rfl
      · exact hmark
      · exact hbracket
      · exact fun _ hc _ => hstar hc
      · exact fun _ hc _ => hstar hc
      · exact hstar

/-- Pieces that stand for themselves make up a name. -/
theorem Part.ofPieces_exactly (cs : List Char) :
    Part.ofPieces (cs.map .exactly) = .named (String.ofList cs) := by
  have hread : Piece.character? ∘ Piece.exactly = pure := rfl
  have hchars : (cs.map .exactly).mapM Piece.character? = some cs := by
    rw [List.mapM_map, hread]
    exact List.mapM_pure.trans (congrArg some (List.map_id' cs))
  rw [Part.ofPieces, hchars]

theorem mapM_ok {α β ε : Type} {f : α → Except ε β} {g : α → β} {l : List α}
    (h : ∀ a ∈ l, f a = .ok (g a)) : l.mapM f = .ok (l.map g) := by
  induction l with
  | nil => rfl
  | cons a rest ih =>
      obtain ⟨ha, hrest⟩ := List.forall_mem_cons.mp h
      rw [List.mapM_cons, ha, ih hrest]
      rfl

namespace Normal

variable {name : String} (h : Normal name)
include h

theorem not_nil_mem : [] ∉ Text.pieces '/' name.toList := fun hmem => (h.parts [] hmem).1 rfl

/-- A name in normal form does not start at the root. -/
theorem head : name.toList.head? ≠ some '/' := by
  intro hslash
  obtain ⟨rest, hrest⟩ := List.head?_eq_some_iff.mp hslash
  refine h.not_nil_mem ?_
  rw [hrest, Text.pieces_cons_self]
  exact List.mem_cons_self

/-- A name in normal form does not ask for a directory. -/
theorem last : name.toList.getLast? ≠ some '/' := by
  intro hslash
  obtain ⟨front, hfront⟩ := List.getLast?_eq_some_iff.mp hslash
  refine h.not_nil_mem ?_
  rw [hfront, Text.pieces_append_cons_self]
  exact List.mem_append_right _ (List.mem_singleton.mpr rfl)

/-- **A pattern that is a name in normal form** has the parts of the name. -/
theorem read : Pattern.read name =
    .ok ⟨false, (Files.parts name).map fun part => .named (String.ofList part), false⟩ := by
  have habsolute : (name.toList.head? == some '/') = false := beq_false_of_ne h.head
  have hdirectory : (name.toList.getLast? == some '/') = false := beq_false_of_ne h.last
  have htexts : partTexts name.toList = Files.parts name := by
    rw [partTexts, if_neg]
    · rfl
    · rintro ⟨-, hnil⟩
      exact h.not_nil_mem (List.mem_of_getLast? hnil)
  have hparts : (Files.parts name).mapM (Piece.read 0 none) =
      .ok ((Files.parts name).map fun part => part.map .exactly) := by
    refine mapM_ok fun part hpart => Piece.read_plain (fun c hc => ?_) 0 none
    exact h.plain c (Text.mem_of_mem_pieces hpart hc).1
  have hnamed : ((Files.parts name).map fun part => part.map Piece.exactly).map Part.ofPieces =
      (Files.parts name).map fun part => .named (String.ofList part) := by
    rw [List.map_map]
    exact List.map_congr_left fun part _ => Part.ofPieces_exactly part
  rw [Pattern.read, Piece.read_plain h.plain]
  simp only [habsolute, hdirectory, Bool.false_eq_true, if_false, htexts, hparts, hnamed]

end Normal

/-! ## Walking -/

/-- A path that a walk has come to: a further name goes below it. -/
structure Under (directory : String) : Prop where
  nonempty : directory.toList ≠ []
  head : (Files.parts directory).head? ≠ some ['.']
  last : directory.toList.getLast? ≠ some '/'

/-- A name as one part of a path. -/
structure IsPart (name : String) : Prop where
  nonempty : name.toList ≠ []
  single : '/' ∉ name.toList
  current : name.toList ≠ ['.']

theorem IsPart.under {name : String} (h : IsPart name) : Under name where
  nonempty := h.nonempty
  head := by
    rw [Files.parts, Text.pieces_of_not_mem h.single]
    exact fun heq => h.current (Option.some.inj heq)
  last := fun hslash => h.single (List.mem_of_getLast? hslash)

theorem child_current (name : String) : child "." name = name := by
  rw [child, if_pos (by decide)]

theorem child_under {directory : String} (h : Under directory) (name : String) :
    child directory name = directory ++ "/" ++ name := by
  have hcurrent : ¬Files.isCurrent directory = true := by
    intro hcurrent
    rw [Files.isCurrent, Bool.and_eq_true] at hcurrent
    exact h.head (eq_of_beq hcurrent.1)
  have hsome : ¬directory.isEmpty = true := by
    intro hempty
    exact h.nonempty (String.toList_eq_nil_iff.mpr (String.isEmpty_iff.mp hempty))
  rw [child, if_neg hcurrent, Files.join, if_neg hsome, if_neg h.last]

theorem toList_below (directory name : String) :
    (directory ++ "/" ++ name).toList = directory.toList ++ '/' :: name.toList := by
  rw [String.toList_append, String.toList_append, List.append_assoc]
  rfl

theorem Under.child {directory name : String} (h : Under directory) (hname : IsPart name) :
    Under (Glob.child directory name) := by
  rw [child_under h]
  refine ⟨?_, ?_, ?_⟩
  · rw [toList_below]
    exact List.append_ne_nil_of_left_ne_nil h.nonempty _
  · obtain ⟨part, parts, hparts⟩ :=
      List.exists_cons_of_ne_nil (Text.pieces_ne_nil '/' directory.toList)
    have hhead := h.head
    rw [Files.parts, hparts] at hhead
    rw [Files.parts, toList_below, Text.pieces_append_cons_self, hparts]
    exact hhead
  · have hlast := hname.under.last
    rw [List.getLast?_eq_some_getLast hname.nonempty] at hlast
    rw [toList_below, List.append_cons, List.getLast?_append,
      List.getLast?_eq_some_getLast hname.nonempty]
    exact hlast

/-- Joining what has been joined. -/
theorem intercalate_cons_append (separator front next : List Char) (rest : List (List Char)) :
    List.intercalate separator ((front ++ separator ++ next) :: rest) =
      List.intercalate separator (front :: next :: rest) := by
  rw [List.intercalate_cons_cons]
  cases rest with
  | nil => rw [List.intercalate_singleton, List.intercalate_singleton]
  | cons last rest =>
      rw [List.intercalate_cons_cons, List.intercalate_cons_cons]
      simp only [List.append_assoc]

/-- **A walk from part to part** makes up the path that they write. -/
theorem foldl_child {directory : String} (h : Under directory) {names : List String}
    (hnames : ∀ name ∈ names, IsPart name) :
    (names.foldl child directory).toList =
      List.intercalate ['/'] (directory.toList :: names.map String.toList) := by
  induction names generalizing directory with
  | nil => exact List.intercalate_singleton.symm
  | cons name rest ih =>
      obtain ⟨hname, hrest⟩ := List.forall_mem_cons.mp hnames
      rw [List.foldl_cons, ih (h.child hname) hrest, child_under h, toList_below, List.append_cons]
      exact intercalate_cons_append ['/'] directory.toList name.toList _

/-! ## Search -/

/-- **A search for names finds the path that they write, or nothing.** -/
theorem search_named (fs : FileSystem Id) {names : List String} {limit : Nat}
    (hlimit : names.length < limit) (path : String) :
    search fs limit (names.map .named) path = [] ∨
      search fs limit (names.map .named) path = [names.foldl child path] := by
  induction names generalizing limit path with
  | nil =>
      obtain ⟨limit, rfl⟩ := Nat.exists_eq_succ_of_ne_zero (Nat.ne_of_gt hlimit)
      exact .inr rfl
  | cons name rest ih =>
      obtain ⟨limit, rfl⟩ := Nat.exists_eq_succ_of_ne_zero (Nat.ne_of_gt (Nat.zero_lt_of_lt hlimit))
      -- a search for a name goes one part down or gives up; it never looks into a directory
      have hstep : search fs (limit + 1) (.named name :: rest.map .named) path =
          if (isThere fs path name).run = true then search fs limit (rest.map .named) (child path name)
          else [] := rfl
      rw [List.map_cons, hstep]
      split
      · exact ih (Nat.lt_of_succ_lt_succ hlimit) (child path name)
      · exact .inl rfl

namespace Normal

variable {name : String} (h : Normal name)
include h

theorem isPart {part : List Char} (hpart : part ∈ Files.parts name) : IsPart (String.ofList part) := by
  obtain ⟨hnil, hcurrent, -⟩ := h.parts part hpart
  have hsingle : '/' ∉ part := fun hslash => (Text.mem_of_mem_pieces hpart hslash).2 rfl
  have hchars : (String.ofList part).toList = part := String.toList_ofList
  exact ⟨by rwa [hchars], by rwa [hchars], by rwa [hchars]⟩

/-- The parts of a name in normal form lead from the current directory to the name. -/
theorem foldl_child : ((Files.parts name).map String.ofList).foldl child "." = name := by
  have hjoin : List.intercalate ['/'] (Files.parts name) = name.toList := Text.join_pieces '/' name.toList
  have hpart : ∀ {part}, part ∈ Files.parts name → IsPart (String.ofList part) := h.isPart
  cases hparts : Files.parts name with
  | nil => exact absurd hparts (Text.pieces_ne_nil '/' name.toList)
  | cons first rest =>
      rw [hparts] at hjoin hpart
      have hrest : ∀ part ∈ rest.map String.ofList, IsPart part := by
        intro name hname
        obtain ⟨part, hmem, rfl⟩ := List.mem_map.mp hname
        exact hpart (List.mem_cons_of_mem first hmem)
      have hchars : (rest.map String.ofList).map String.toList = rest := by
        rw [List.map_map]
        exact (List.map_congr_left fun _ _ => String.toList_ofList).trans (List.map_id' rest)
      refine String.toList_inj.mp ?_
      rw [List.map_cons, List.foldl_cons, child_current,
        Glob.foldl_child (hpart List.mem_cons_self).under hrest, hchars, String.toList_ofList]
      exact hjoin

/-- **A pattern that is a name in normal form matches this name or nothing.** -/
theorem matches_eq (fs : FileSystem Id) {p : Pattern} (hread : Pattern.read name = .ok p) :
    p.matches fs = [] ∨ p.matches fs = [name] := by
  rw [h.read] at hread
  cases hread
  let names := (Files.parts name).map String.ofList
  have hnamed : (Files.parts name).map (fun part => Part.named (String.ofList part)) = names.map .named := by
    rw [List.map_map]
    rfl
  have hlimit : names.length < searchLimit + (names.map Part.named).length := by
    rw [List.length_map (f := Part.named)]
    have hpos : 0 < searchLimit := by decide
    omega
  have hsearch := search_named fs hlimit "."
  rw [h.foldl_child] at hsearch
  show search fs (searchLimit + ((Files.parts name).map _).length) _ "." = [] ∨ search fs _ _ "." = [name]
  rw [hnamed]
  exact hsearch

end Normal
end JsonSchema.Glob

namespace JsonSchema

/-- A text has no signs. -/
def Literal (text : String) : Prop := ∀ c ∈ text.toList, Glob.Plain c

theorem isLiteral_iff {text : String} : isLiteral text = true ↔ Literal text := by
  simp [isLiteral, Literal, Glob.Plain, and_assoc]

namespace Glob.Normal

variable {name : String} (h : Normal name)
include h

theorem isLiteral : JsonSchema.isLiteral name = true := isLiteral_iff.mpr h.plain

/-- The path for a name is the name: it is found and no directory, or else it stands for itself. -/
theorem pathsOf_eq (fs : FileSystem Id) {p : Pattern} (hread : Pattern.read name = .ok p) :
    pathsOf fs (name, p) = [name] := by
  have hself : pathsFor name [] = [name] := by
    rw [pathsFor, h.isLiteral]
    rfl
  -- a name that is found and left out as a directory comes back like one that is not found
  rcases h.matches_eq fs hread with hnone | hone
  · rw [pathsOf, hnone]
    exact hself
  · rw [pathsOf, hone]
    show pathsFor name (cond (!(fs.isDirectory name).run) [name] []).reverse = [name]
    cases (fs.isDirectory name).run with
    | false => rfl
    | true => exact hself

end Glob.Normal

/-- **A name in normal form without signs is the one input that it names**, whatever the files are. -/
theorem resolve_normal (fs : FileSystem Id) {name : String} (h : Glob.Normal name) :
    resolve fs [name] = .ok [.file name] := by
  obtain ⟨p, hread⟩ : ∃ p, Glob.Pattern.read name = .ok p := ⟨_, h.read⟩
  have hpatterns : readPatterns [name] = .ok [(name, p)] := by
    rw [readPatterns, List.mapM_cons, hread]
    rfl
  have hunion : union [name] = [name] := by
    rw [union, List.mergeSort_singleton]
    rfl
  rw [resolve, hpatterns]
  show inputsOf [name] [(pathsOf fs (name, p)).run].flatten = _
  rw [h.pathsOf_eq fs hread]
  show inputsOf [name] [name] = _
  rw [inputsOf, hunion]
  rfl

end JsonSchema
