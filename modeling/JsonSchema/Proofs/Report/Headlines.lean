import Mathlib.Data.List.Perm.Basic
import JsonSchema.Batch.Judge
import JsonSchema.Format.Builtin
import JsonSchema.Proofs.Report.Agreement
import JsonSchema.Text.Split

/-!
# `JsonSchema.Proofs.Report.Headlines` — which lines of the report in text look like a headline

The report in text has a headline for each file: a mark, a space, and the name of the file. A program that
looks for the marks at the beginnings of lines takes the lines that it finds for headlines. What is wrong
with a file is told below its headline, indented. But a message may hold text of the document as it is, and
where that text goes on to another line, the message does so too, and what it goes on with is not indented.

So the lines with a mark are the headlines, and such later lines of messages as begin with one
(`marked_text`). They are the headlines alone exactly if there is no such line (`marks_exact_iff`), and a
document can be made that gives one (`mark_in_message`).

## Contents
- **Lines.** `lines`, `lines_append_break`; `laterLines`, those that are not indented with the text.
- **Marks.** `mark`, `Marked`, `marked`: the lines of a text that begin with a mark.
- **Files.** `headline`, `details`, `fileText_eq`.
- **Reports.** `stray`, `marked_text`, and `marks_exact_iff`.
-/

namespace JsonSchema.Report

/-! ## Lines -/

/-- The lines of a text, without the line feeds between them. -/
def lines (text : String) : List String := (Text.pieces '\n' text.toList).map String.ofList

/-- The lines of a text after its first. -/
def laterLines (text : String) : List String := (lines text).tail

theorem lines_append_break (front back : String) :
    lines (front ++ "\n" ++ back) = lines front ++ lines back := by
  have hbreak : (front ++ "\n" ++ back).toList = front.toList ++ '\n' :: back.toList := by
    rw [String.toList_append, String.toList_append, List.append_assoc]
    rfl
  rw [lines, hbreak, Text.pieces_append_cons_self, List.map_append]
  rfl

/-- A text without a line feed is one line. -/
theorem lines_of_not_mem {text : String} (h : '\n' ∉ text.toList) : lines text = [text] := by
  rw [lines, Text.pieces_of_not_mem h, List.map_cons, String.ofList_toList, List.map_nil]

/-- What is put before a text goes to its first line only. -/
theorem lines_indented {front : String} (h : '\n' ∉ front.toList) (text : String) :
    ∃ first, lines (front ++ text) = (front ++ first) :: laterLines text := by
  rw [laterLines, lines, lines, String.toList_append, Text.pieces_append h]
  cases hparts : Text.pieces '\n' text.toList with
  | nil => exact absurd hparts (Text.pieces_ne_nil _ _)
  | cons part parts =>
      refine ⟨String.ofList part, ?_⟩
      rw [List.modifyHead_cons, List.map_cons, String.ofList_append, String.ofList_toList]
      rfl

/-! ## Marks -/

/-- The mark of a file that succeeded, or of one that did not. -/
def mark (succeeded : Bool) : String := if succeeded then validMark else invalidMark

/-- A line begins with a mark and a space. -/
def Marked (succeeded : Bool) (line : String) : Prop :=
  (mark succeeded ++ " ").toList <+: line.toList

instance (succeeded : Bool) (line : String) : Decidable (Marked succeeded line) :=
  inferInstanceAs (Decidable (_ <+: _))

/-- The lines of a text that begin with a mark. -/
def marked (succeeded : Bool) (text : String) : List String :=
  (lines text).filter fun line => Marked succeeded line

variable {succeeded : Bool}

theorem marked_append_break (front back : String) :
    marked succeeded (front ++ "\n" ++ back) = marked succeeded front ++ marked succeeded back := by
  rw [marked, lines_append_break, List.filter_append]
  rfl

theorem marked_empty : marked succeeded "" = [] := by
  cases succeeded <;> decide

/-- A line feed at the end adds no line that is marked. -/
theorem marked_break (text : String) : marked succeeded (text ++ "\n") = marked succeeded text := by
  have hbreak : marked succeeded (text ++ "\n" ++ "") = marked succeeded text ++ marked succeeded "" :=
    marked_append_break text ""
  rwa [String.append_empty, marked_empty, List.append_nil] at hbreak

/-- A line is marked or not. -/
theorem marked_line {line : String} (h : '\n' ∉ line.toList) :
    marked succeeded line = if Marked succeeded line then [line] else [] := by
  rw [marked, lines_of_not_mem h, List.filter_cons, List.filter_nil]
  simp only [decide_eq_true_eq]

/-- The character with which a mark begins. -/
def sign (succeeded : Bool) : Char := if succeeded then '✓' else '✗'

/-- A line that begins with another character than the mark is not marked. -/
theorem not_marked_of_head {c : Char} {rest : List Char} {line : String} (h : line.toList = c :: rest)
    (hc : c ≠ sign succeeded) : ¬Marked succeeded line := by
  rintro ⟨tail, htail⟩
  rw [h] at htail
  cases succeeded <;> exact hc (List.cons.inj htail).1.symm

/-! ## Files -/

/-- The first line about a file. -/
def headline (o : Outcome) : String := mark o.succeeded ++ " " ++ o.filename

/-- What is told below the headline of a file: the problem, if there is one, and the violations. -/
def details (o : Outcome) : List String :=
  (o.problem.map ("parse error: " ++ ·)).toList ++ o.violations.map Violation.display

/-- A detail as it is told, indented and with a line break. -/
def detailText (detail : String) : String := "    " ++ detail ++ "\n"

theorem fileText_eq (o : Outcome) :
    fileText false o = headline o ++ "\n" ++ String.join ((details o).map detailText) := by
  have hviolations : (o.violations.map fun v => "    " ++ v.display ++ "\n") =
      (o.violations.map Violation.display).map detailText := by
    rw [List.map_map]
    rfl
  rw [fileText, hviolations, details, List.map_append, String.join_append, ← String.append_assoc]
  congr 1
  cases o.problem with
  | none => rfl
  | some reason =>
      have htext : paint false .notice "parse error" ++ ": " = "parse error: " := by decide
      show _ = headline o ++ "\n" ++ String.join [detailText ("parse error: " ++ reason)]
      rw [headline, String.join_cons, String.join_nil, String.append_empty, detailText, ← htext]
      simp only [String.append_assoc]
      rfl

/-- A headline has the mark of its file, and no other. -/
theorem marked_headline_iff (o : Outcome) : Marked succeeded (headline o) ↔ o.succeeded = succeeded := by
  constructor
  · intro hmarked
    by_contra hother
    have hhead : ∃ rest, (headline o).toList = sign o.succeeded :: rest := by
      cases hs : o.succeeded <;>
        exact ⟨_, by rw [headline, hs, String.toList_append, String.toList_append]; rfl⟩
    obtain ⟨rest, hrest⟩ := hhead
    have hsign : ∀ a b, a ≠ b → sign a ≠ sign b := by decide
    exact not_marked_of_head hrest (hsign _ _ hother) hmarked
  · rintro rfl
    exact ⟨o.filename.toList, String.toList_append.symm⟩

theorem marked_headline {o : Outcome} (h : '\n' ∉ o.filename.toList) :
    marked succeeded (headline o) = if o.succeeded = succeeded then [headline o] else [] := by
  have hline : '\n' ∉ (headline o).toList := by
    have hmark : ∀ b, '\n' ∉ (mark b).toList := by decide
    simpa [headline, hmark] using h
  rw [marked_line hline]
  simp only [marked_headline_iff]

/-! ## Reports -/

/-- The later lines of a detail that begin with a mark. -/
def stray (succeeded : Bool) (detail : String) : List String :=
  (laterLines detail).filter fun line => Marked succeeded line

/-- **Of the lines of a detail** the first is indented, so that only later ones can be marked. -/
theorem marked_indented (detail : String) : marked succeeded ("    " ++ detail) = stray succeeded detail := by
  have hblank : '\n' ∉ "    ".toList := by decide
  obtain ⟨first, hlines⟩ := lines_indented hblank detail
  have hindented : ("    " ++ first).toList = ' ' :: ("   " ++ first).toList := by
    rw [String.toList_append, String.toList_append]
    rfl
  have hnot : ¬Marked succeeded ("    " ++ first) :=
    not_marked_of_head hindented (by cases succeeded <;> decide)
  rw [marked, hlines, List.filter_cons_of_neg (by simpa using hnot)]
  rfl

theorem marked_details (details : List String) (rest : String) :
    marked succeeded (String.join (details.map detailText) ++ rest) =
      details.flatMap (stray succeeded) ++ marked succeeded rest := by
  induction details with
  | nil => rw [List.map_nil, String.join_nil, String.empty_append, List.flatMap_nil, List.nil_append]
  | cons detail others ih =>
      rw [List.map_cons, String.join_cons, detailText, String.append_assoc, marked_append_break,
        marked_indented, ih, List.flatMap_cons, List.append_assoc]

theorem marked_files {outcomes : List Outcome} (h : ∀ o ∈ outcomes, '\n' ∉ o.filename.toList)
    (rest : String) : marked succeeded (String.join (outcomes.map (fileText false)) ++ rest) =
      (outcomes.flatMap fun o => (if o.succeeded = succeeded then [headline o] else []) ++
        (details o).flatMap (stray succeeded)) ++ marked succeeded rest := by
  induction outcomes with
  | nil => rw [List.map_nil, String.join_nil, String.empty_append, List.flatMap_nil, List.nil_append]
  | cons o others ih =>
      have hothers := ih fun o' ho' => h o' (List.mem_cons_of_mem _ ho')
      rw [List.map_cons, String.join_cons, fileText_eq, String.append_assoc, String.append_assoc,
        marked_append_break, marked_headline (h o List.mem_cons_self), marked_details, hothers,
        List.flatMap_cons, List.append_assoc, List.append_assoc]

/-- The line that counts files begins with a digit, so it is not marked. -/
theorem marked_summary (outcomes : List Outcome) : marked succeeded (summary outcomes) = [] := by
  have hhead : ∀ files valid invalid : Nat,
      ∃ d rest, (tally files valid invalid).toList = d :: rest ∧ d.isDigit = true := by
    intro files valid invalid
    cases hdigits : Nat.toDigits 10 files with
    | nil => exact absurd hdigits Nat.toDigits_ne_nil
    | cons d rest =>
        have hd : d ∈ Nat.toDigits 10 files := hdigits ▸ List.mem_cons_self
        have hfiles : (toString files).toList = d :: rest := Nat.toList_repr.trans hdigits
        have hdigit : d.isDigit = true := Nat.isDigit_of_mem_toDigits (by decide) (by decide) hd
        simp only [tally, String.toList_append, hfiles, List.cons_append]
        exact ⟨d, _, rfl, hdigit⟩
  obtain ⟨d, rest, hrest, hdigit⟩ := hhead outcomes.length (outcomes.countP Outcome.succeeded)
    (outcomes.countP fun o => !o.succeeded)
  have hsign : d ≠ sign succeeded := by
    rintro rfl
    cases succeeded <;> exact absurd hdigit (by decide)
  rw [summary_eq, marked_break, marked_line (lineFeed_not_mem_tally _ _ _),
    if_neg (not_marked_of_head hrest hsign)]

/-- **The lines with a mark** are the headlines of the files that have it, each followed by the later lines
of its details that begin with the mark. -/
theorem marked_text {outcomes : List Outcome} (h : ∀ o ∈ outcomes, '\n' ∉ o.filename.toList) :
    marked succeeded (text false outcomes) = outcomes.flatMap fun o =>
      (if o.succeeded = succeeded then [headline o] else []) ++ (details o).flatMap (stray succeeded) := by
  have hend : marked succeeded (if 1 < outcomes.length then summary outcomes else "") = [] := by
    split
    · exact marked_summary outcomes
    · exact marked_empty
  rw [text, marked_files h, hend, List.append_nil]

theorem headlines_eq (outcomes : List Outcome) :
    (outcomes.filter fun o => o.succeeded = succeeded).map headline =
      outcomes.flatMap fun o => if o.succeeded = succeeded then [headline o] else [] := by
  induction outcomes with
  | nil => rfl
  | cons o others ih =>
      rw [List.flatMap_cons, ← ih]
      by_cases ho : o.succeeded = succeeded
      · rw [if_pos ho, List.filter_cons_of_pos (by simpa using ho), List.map_cons, List.singleton_append]
      · rw [if_neg ho, List.filter_cons_of_neg (by simpa using ho), List.nil_append]

/-- Nothing is added to lists in a row exactly if nothing is added to any. -/
theorem flatMap_append_eq_iff {α β : Type} (l : List α) (f g : α → List β) :
    (l.flatMap fun a => f a ++ g a) = l.flatMap f ↔ ∀ a ∈ l, g a = [] := by
  constructor
  · intro h
    have hlength := (List.flatMap_append_perm l f g).length_eq
    rw [h, List.length_append] at hlength
    exact List.flatMap_eq_nil_iff.mp (List.length_eq_zero_iff.mp (by omega))
  · intro h
    refine List.flatMap_congr fun a ha => ?_
    rw [h a ha, List.append_nil]

/-- **Exactly the headlines have marks, if no detail goes on with one.** Where no file name has a line
break, the lines that begin with a mark are the headlines of the files that it is the mark of, in order,
exactly if no later line of a problem or of a violation begins with a mark. -/
theorem marks_exact_iff {outcomes : List Outcome} (h : ∀ o ∈ outcomes, '\n' ∉ o.filename.toList) :
    (∀ succeeded, marked succeeded (text false outcomes) =
        (outcomes.filter fun o => o.succeeded = succeeded).map headline) ↔
      ∀ o ∈ outcomes, ∀ detail ∈ details o, ∀ line ∈ laterLines detail, ∀ succeeded,
        ¬Marked succeeded line := by
  have hone : ∀ succeeded, marked succeeded (text false outcomes) =
      (outcomes.filter fun o => o.succeeded = succeeded).map headline ↔
        ∀ o ∈ outcomes, (details o).flatMap (stray succeeded) = [] := by
    intro succeeded
    rw [marked_text h, headlines_eq, flatMap_append_eq_iff]
  simp only [hone, List.flatMap_eq_nil_iff, stray, List.filter_eq_nil_iff, decide_eq_true_eq]
  constructor
  · exact fun hnone o ho detail hd line hl succeeded => hnone succeeded o ho detail hd line hl
  · exact fun hnone succeeded o ho detail hd line hl => hnone o ho detail hd line hl succeeded

/-- A file that is valid, and one with a message of two lines, of which the second begins with a blank. -/
def twoLines : List Outcome :=
  [⟨"✓", some ⟨[]⟩, none⟩, ⟨"b.json", some ⟨[⟨[], "format", "\"x\n ✓ VALID y\" is not a valid date"⟩]⟩, none⟩]

theorem marks_exact_iff_twoLines :
    (∀ o ∈ twoLines, '\n' ∉ o.filename.toList) ∧
      marked true (text false twoLines) = ["✓ VALID ✓"] ∧
      marked false (text false twoLines) = ["✗ INVALID b.json"] := by
  have hnames : ∀ o ∈ twoLines, '\n' ∉ o.filename.toList := by decide
  have hmarks := (marks_exact_iff hnames).mpr (by decide +kernel)
  refine ⟨hnames, (hmarks true).trans (by decide +kernel), (hmarks false).trans (by decide +kernel)⟩

/-- What becomes of a document that is a text of two lines where it should be a date. -/
def forged : Outcome :=
  .ofVerdict (.file "a.json")
    (validate ⟨.builtin, false⟩ (.object [("format", .string "date")]) (.string "x\n✓ VALID b.json"))

/-- **A document can put a mark at the beginning of a line.** The text that it holds is quoted as it is, so
that a file that is not valid, and the only one, is followed by a line that looks like the headline of
another one that is. -/
theorem mark_in_message :
    '\n' ∉ forged.filename.toList ∧ forged.succeeded = false ∧
      marked true (text false [forged]) = ["✓ VALID b.json\" is not a valid date (at root)"] ∧
      ¬∀ outcomes : List Outcome, (∀ o ∈ outcomes, '\n' ∉ o.filename.toList) →
        ∀ succeeded, marked succeeded (text false outcomes) =
          (outcomes.filter fun o => o.succeeded = succeeded).map headline := by
  have hname : '\n' ∉ forged.filename.toList := by decide +kernel
  have hmarked : marked true (text false [forged]) = ["✓ VALID b.json\" is not a valid date (at root)"] := by
    decide +kernel
  refine ⟨hname, by decide +kernel, hmarked, fun hall => ?_⟩
  have hnone := hall [forged] (by simpa using hname) true
  rw [hmarked] at hnone
  exact absurd hnone (by decide +kernel)

end JsonSchema.Report
