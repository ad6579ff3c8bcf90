import Mathlib.Data.List.Forall2
import JsonSchema.Report.Csv

/-!
# `JsonSchema.Proofs.Report.Table` — comma-separated values as a reader takes them

A table is rows of fields. A field may stand in quotes, and then holds anything, a quote being doubled;
outside quotes a comma ends a field, and a line feed ends a row, as does a carriage return with a line
feed after it. A quote inside a field that does not begin with one is no part of a table, nor is anything
else between a closing quote and the end of its field.

A row may be written in many ways, but only one row can have been meant: the reader is a machine that takes
every written form of a table for that table (`read?_of_written`). The report is one of these forms,
whatever names of files and messages it holds.

## Contents
- **Reader.** `Cell` (how far a field has been read), `Table`, `Table.step`, `Table.read?`.
- **Grammar.** `WrittenField`, `WrittenRow`, `WrittenTable`: the forms in which a table may be written.
- **Reading.** `Cell.Holds`, `through_field`, `through_row`, `read?_of_written`.
- **Writing.** `written_field`, `written_row`, `written_rows`.
- **Reports.** `TellsRow`, by `TellsFlag`, `TellsCount` and `TellsErrors`; `written_csv`, `csv_tells`.
-/

namespace JsonSchema.Report

/-! ## Reader -/

/-- How far a field has been read. Its characters are held last first. -/
inductive Cell where
  /-- nothing yet -/
  | empty
  /-- in a field without quotes -/
  | bare (chars : List Char)
  /-- inside quotes -/
  | quoted (chars : List Char)
  /-- after a quote inside quotes, which closes them unless another one follows -/
  | closing (chars : List Char)
  /-- after a carriage return, which a line feed has to follow -/
  | returned (chars : List Char)

/-- What has been read of a table: its rows, and the fields of the row at hand, both last first. -/
structure Table where
  rows : List (List String)
  fields : List String
  cell : Cell

namespace Table

/-- Before the first character. -/
def start : Table := ⟨[], [], .empty⟩

/-- The table with the field at hand read on. -/
def goOn (t : Table) (cell : Cell) : Table := { t with cell }

/-- The table after the end of a field. -/
def endField (t : Table) (chars : List Char) : Table :=
  ⟨t.rows, String.ofList chars.reverse :: t.fields, .empty⟩

/-- The table after the end of a row, of which this is the last field. -/
def endRow (t : Table) (chars : List Char) : Table :=
  ⟨(t.endField chars).fields.reverse :: t.rows, [], .empty⟩

/-- A character outside quotes, by which the field may end or else is read on. -/
def outside (t : Table) (chars : List Char) (c : Char) (next : Option Cell) : Option Table :=
  if c = ',' then some (t.endField chars)
  else if c = '\n' then some (t.endRow chars)
  else if c = '\r' then some (t.goOn (.returned chars))
  else next.map t.goOn

/-- One character of a table. -/
def step (t : Table) (c : Char) : Option Table :=
  match t.cell with
  | .empty => t.outside [] c (some (if c = '"' then .quoted [] else .bare [c]))
  | .bare chars => t.outside chars c (if c = '"' then none else some (.bare (c :: chars)))
  | .quoted chars => some (t.goOn (if c = '"' then .closing chars else .quoted (c :: chars)))
  | .closing chars => t.outside chars c (if c = '"' then some (.quoted (c :: chars)) else none)
  | .returned chars => if c = '\n' then some (t.endRow chars) else none

/-- The rows of a table that may end here. A last row need not be ended by a line break. -/
def atEnd (t : Table) : Option (List (List String)) :=
  match t.cell with
  | .empty => some (if t.fields = [] then t.rows else (t.endRow []).rows).reverse
  | .bare chars | .closing chars => some (t.endRow chars).rows.reverse
  | .quoted _ | .returned _ => none

/-- The table after some characters. -/
def through (t : Table) (chars : List Char) : Option Table := chars.foldlM step t

/-- The rows of a text, if it is a table. -/
def read? (text : String) : Option (List (List String)) := (start.through text.toList).bind atEnd

theorem through_cons {t t' : Table} {c : Char} (h : t.step c = some t') (rest : List Char) :
    t.through (c :: rest) = t'.through rest := by
  show (t.step c).bind (fun next => next.through rest) = _
  rw [h, Option.bind_some]

theorem through_append {t t' : Table} {front : List Char} (h : t.through front = some t')
    (rest : List Char) : t.through (front ++ rest) = t'.through rest := by
  rw [through, List.foldlM_append]
  show (t.through front).bind (fun next => next.through rest) = _
  rw [h, Option.bind_some]

end Table

/-! ## Grammar -/

/-- A character that may stand in a field without quotes. -/
def Plain (c : Char) : Prop := c ≠ ',' ∧ c ≠ '"' ∧ c ≠ '\n' ∧ c ≠ '\r'

/-- A text with every quote written twice. -/
def doubled (text : List Char) : List Char := text.flatMap fun c => if c = '"' then ['"', '"'] else [c]

/-- The forms of a field: as it is, if no character of it has a meaning of its own, or in quotes. -/
inductive WrittenField : List Char → List Char → Prop where
  | bare {text : List Char} (plain : ∀ c ∈ text, Plain c) : WrittenField text text
  | quoted (text : List Char) : WrittenField text ('"' :: doubled text ++ ['"'])

/-- The forms of a row: its fields with commas between them. There is at least one field. -/
inductive WrittenRow : List String → List Char → Prop where
  | last {text : String} {chars : List Char} (field : WrittenField text.toList chars) :
      WrittenRow [text] chars
  | next {text : String} {texts : List String} {chars others : List Char}
      (field : WrittenField text.toList chars) (rest : WrittenRow texts others) :
      WrittenRow (text :: texts) (chars ++ ',' :: others)

/-- The ends of a row: a line feed, or a carriage return and a line feed. -/
inductive RowEnd : List Char → Prop where
  | lineFeed : RowEnd ['\n']
  | returned : RowEnd ['\r', '\n']

/-- The forms of a table: its rows one after the other, each with an end. -/
inductive WrittenTable : List (List String) → List Char → Prop where
  | empty : WrittenTable [] []
  | row {texts : List String} {rows : List (List String)} {chars rowEnd others : List Char}
      (first : WrittenRow texts chars) (ended : RowEnd rowEnd) (rest : WrittenTable rows others) :
      WrittenTable (texts :: rows) (chars ++ (rowEnd ++ others))

/-! ## Reading -/

/-- A field that may end here holds a text. -/
inductive Cell.Holds : Cell → List Char → Prop where
  | empty : Holds .empty []
  | bare (chars : List Char) : Holds (.bare chars) chars.reverse
  | closing (chars : List Char) : Holds (.closing chars) chars.reverse

namespace Table

variable (rows : List (List String)) (fields : List String)

theorem step_comma {cell : Cell} {text : List Char} (h : cell.Holds text) :
    (Table.mk rows fields cell).step ',' = some ⟨rows, String.ofList text :: fields, .empty⟩ := by
  cases h <;> rfl

/-- The end of a row ends its last field. -/
theorem through_rowEnd {cell : Cell} {text rowEnd : List Char} (h : cell.Holds text)
    (hend : RowEnd rowEnd) : (Table.mk rows fields cell).through rowEnd =
      some ⟨(String.ofList text :: fields).reverse :: rows, [], .empty⟩ := by
  cases hend <;> cases h <;> rfl

/-- A plain character does not end a field. -/
theorem outside_of_plain {c : Char} (h : Plain c) (t : Table) (chars : List Char)
    (next : Option Cell) : t.outside chars c next = next.map t.goOn := by
  obtain ⟨hcomma, -, hfeed, hreturn⟩ := h
  rw [outside, if_neg hcomma, if_neg hfeed, if_neg hreturn]

/-- **Without quotes** a field is read up to its end if all of it is plain. -/
theorem through_bare {text : List Char} (h : ∀ c ∈ text, Plain c) (chars : List Char) :
    (Table.mk rows fields (.bare chars)).through text =
      some ⟨rows, fields, .bare (text.reverse ++ chars)⟩ := by
  induction text generalizing chars with
  | nil => rfl
  | cons c rest ih =>
      have hc := h c List.mem_cons_self
      have hstep : (Table.mk rows fields (.bare chars)).step c = some ⟨rows, fields, .bare (c :: chars)⟩ := by
        show outside _ chars c _ = _
        rw [outside_of_plain hc, if_neg hc.2.1]
        rfl
      rw [through_cons hstep, ih fun d hd => h d (List.mem_cons_of_mem _ hd), List.reverse_cons,
        List.append_assoc, List.singleton_append]

/-- **Inside quotes** every text is read up to its end. -/
theorem through_doubled (text chars : List Char) :
    (Table.mk rows fields (.quoted chars)).through (doubled text) =
      some ⟨rows, fields, .quoted (text.reverse ++ chars)⟩ := by
  induction text generalizing chars with
  | nil => rfl
  | cons c rest ih =>
      have hchar : (Table.mk rows fields (.quoted chars)).through (if c = '"' then ['"', '"'] else [c]) =
          some ⟨rows, fields, .quoted (c :: chars)⟩ := by
        by_cases hc : c = '"'
        · rw [if_pos hc, hc]
          rfl
        · have hstep : (Table.mk rows fields (.quoted chars)).step c =
              some ⟨rows, fields, .quoted (c :: chars)⟩ := by
            show some (goOn _ (if c = '"' then _ else _)) = _
            rw [if_neg hc]
            rfl
          rw [if_neg hc, through_cons hstep]
          rfl
      rw [doubled, List.flatMap_cons, through_append hchar, ← doubled, ih, List.reverse_cons,
        List.append_assoc, List.singleton_append]

/-- **A written field is read as the text that it writes.** -/
theorem through_field {text chars : List Char} (h : WrittenField text chars) :
    ∃ cell : Cell, cell.Holds text ∧
      (Table.mk rows fields .empty).through chars = some ⟨rows, fields, cell⟩ := by
  cases h with
  | quoted =>
      have hopen : (Table.mk rows fields .empty).step '"' = some ⟨rows, fields, .quoted []⟩ := rfl
      have hclose : (Table.mk rows fields (.quoted text.reverse)).step '"' =
          some ⟨rows, fields, .closing text.reverse⟩ := rfl
      have hinside := through_doubled rows fields text []
      rw [List.append_nil] at hinside
      refine ⟨.closing text.reverse, ?_, ?_⟩
      · have hholds := Cell.Holds.closing text.reverse
        rwa [List.reverse_reverse] at hholds
      · rw [List.cons_append, through_cons hopen, through_append hinside, through_cons hclose]
        rfl
  | bare plain =>
      cases text with
      | nil => exact ⟨.empty, .empty, rfl⟩
      | cons c rest =>
          have hc := plain c List.mem_cons_self
          have hstep : (Table.mk rows fields .empty).step c = some ⟨rows, fields, .bare [c]⟩ := by
            show outside _ [] c _ = _
            rw [outside_of_plain hc, if_neg hc.2.1]
            rfl
          refine ⟨.bare (rest.reverse ++ [c]), ?_, ?_⟩
          · have hholds := Cell.Holds.bare (rest.reverse ++ [c])
            rwa [List.reverse_append, List.reverse_reverse] at hholds
          · rw [through_cons hstep, through_bare rows fields fun d hd => plain d (List.mem_cons_of_mem _ hd)]

/-- **A written row is read as its fields**, after those that have been read before. -/
theorem through_row {texts : List String} {chars rowEnd : List Char} (h : WrittenRow texts chars)
    (hend : RowEnd rowEnd) : (Table.mk rows fields .empty).through (chars ++ rowEnd) =
      some ⟨(fields.reverse ++ texts) :: rows, [], .empty⟩ := by
  induction h generalizing fields with
  | last field =>
      obtain ⟨cell, hholds, hfield⟩ := through_field rows fields field
      rw [through_append hfield, through_rowEnd rows fields hholds hend, String.ofList_toList,
        List.reverse_cons]
  | next field _ ih =>
      obtain ⟨cell, hholds, hfield⟩ := through_field rows fields field
      rw [List.append_assoc, List.cons_append, through_append hfield,
        through_cons (step_comma rows fields hholds), String.ofList_toList, ih, List.reverse_cons,
        List.append_assoc, List.singleton_append]

/-- **Every written form of a table is read as the table.** -/
theorem read?_of_written {table : List (List String)} {chars : List Char} (h : WrittenTable table chars) :
    read? (String.ofList chars) = some table := by
  suffices hall : ∀ before : List (List String), (Table.mk before [] .empty).through chars =
      some ⟨table.reverse ++ before, [], .empty⟩ by
    rw [read?, String.toList_ofList, start, hall, Option.bind_some, List.append_nil]
    show some table.reverse.reverse = _
    rw [List.reverse_reverse]
  induction h with
  | empty => exact fun before => rfl
  | row first ended _ ih =>
      intro before
      rw [← List.append_assoc, through_append (through_row before [] first ended), ih, List.reverse_cons,
        List.append_assoc, List.singleton_append]
      rfl

end Table

/-! ## Writing -/

theorem plain_of_not_needsQuotes {c : Char} (h : needsQuotes c = false) : Plain c := by
  have hne : ∀ d, needsQuotes d = true → c ≠ d := by
    rintro d hd rfl
    rw [h] at hd
    cases hd
  exact ⟨hne _ rfl, hne _ rfl, hne _ rfl, hne _ rfl⟩

/-- **Whatever a field holds, it is written in one of the forms of a field.** -/
theorem written_field (text : List Char) : WrittenField text (field text) := by
  unfold field
  split
  · exact .quoted text
  · next hplain =>
    have hall : ∀ c ∈ text, needsQuotes c = false := by simpa using hplain
    exact .bare fun c hc => plain_of_not_needsQuotes (hall c hc)

theorem written_row {texts : List String} (h : texts ≠ []) :
    ∃ chars, row texts = chars ++ ['\n'] ∧ WrittenRow texts chars := by
  induction texts with
  | nil => exact absurd rfl h
  | cons text rest ih =>
      cases rest with
      | nil => exact ⟨field text.toList, by simp [row], .last (written_field _)⟩
      | cons next rest =>
          obtain ⟨others, hrow, hwritten⟩ := ih (List.cons_ne_nil _ _)
          refine ⟨field text.toList ++ ',' :: others, ?_, .next (written_field _) hwritten⟩
          have hcons : row (text :: next :: rest) = field text.toList ++ ',' :: row (next :: rest) := by
            simp [row, List.intercalate_cons_cons]
          rw [hcons, hrow, List.append_assoc, List.cons_append]

/-- **Rows are written as a table**, if none of them is without fields. -/
theorem written_rows {rows : List (List String)} (h : ∀ texts ∈ rows, texts ≠ []) :
    WrittenTable rows (rows.flatMap row) := by
  induction rows with
  | nil => exact .empty
  | cons texts rest ih =>
      obtain ⟨chars, hrow, hwritten⟩ := written_row (h texts List.mem_cons_self)
      rw [List.flatMap_cons, hrow, List.append_assoc]
      exact .row hwritten .lineFeed (ih fun t ht => h t (List.mem_cons_of_mem _ ht))

/-! ## Reports -/

/-- A word says whether an outcome is clean. -/
def TellsFlag (o : Outcome) (word : String) : Prop :=
  o.Clean ∧ word = "true" ∨ ¬o.Clean ∧ word = "false"

/-- A numeral says how many violations a verdict has. Where there is no verdict there are none. -/
def TellsCount : Option Verdict → String → Prop
  | some verdict, numeral => numeral = toString verdict.violations.length
  | none, numeral => numeral = "0"

/-- A text says what is wrong: the problem, if there is one, or else the messages of the verdict. -/
def TellsErrors : Option String → Option Verdict → String → Prop
  | some reason, _, text => text = "parse error: " ++ reason
  | none, some verdict, text => text = "; ".intercalate (verdict.violations.map Violation.message)
  | none, none, text => text = ""

/-- A row says of an outcome its file name, whether it is clean, how many violations it has, and what is
wrong. -/
def TellsRow (o : Outcome) (texts : List String) : Prop :=
  ∃ flag count errors, texts = [o.filename, flag, count, errors] ∧ TellsFlag o flag ∧
    TellsCount o.verdict count ∧ TellsErrors o.problem o.verdict errors

theorem tellsFlag_succeeded (o : Outcome) : TellsFlag o (if o.succeeded then "true" else "false") := by
  by_cases h : o.succeeded = true
  · exact .inl ⟨Outcome.succeeded_iff.mp h, if_pos h⟩
  · exact .inr ⟨mt Outcome.succeeded_iff.mpr h, if_neg h⟩

theorem tellsRow_fields (o : Outcome) : TellsRow o (fields o) := by
  refine ⟨_, _, _, rfl, tellsFlag_succeeded o, ?_, ?_⟩
  · unfold Outcome.count
    cases o.verdict <;> rfl
  · unfold Outcome.violations
    cases o.problem <;> cases o.verdict <;> rfl

/-- **The report is written as a table.** -/
theorem written_csv (outcomes : List Outcome) :
    WrittenTable (header :: outcomes.map fields) (csv outcomes).toList := by
  have hne : ∀ texts ∈ header :: outcomes.map fields, texts ≠ [] := by
    intro texts ht
    rcases List.mem_cons.mp ht with rfl | hmem
    · exact List.cons_ne_nil _ _
    · obtain ⟨o, -, rfl⟩ := List.mem_map.mp hmem
      exact List.cons_ne_nil _ _
  have hwritten := written_rows hne
  rw [List.flatMap_cons, List.flatMap_map] at hwritten
  rw [csv, String.toList_ofList]
  exact hwritten

/-- **The report is read as a table.** -/
theorem read?_csv (outcomes : List Outcome) :
    Table.read? (csv outcomes) = some (header :: outcomes.map fields) := by
  have hread := Table.read?_of_written (written_csv outcomes)
  rwa [String.ofList_toList] at hread

/-- **The report in comma-separated values is well formed, whatever it holds.** It is a table, and there is
no other table that it could be taken for: the names of the columns, and then one row of four fields for
each outcome, in order, which say what there is to say of the outcome, character for character. -/
theorem csv_tells (outcomes : List Outcome) :
    ∃ rows, Table.read? (csv outcomes) = some (["filename", "valid", "error_count", "errors"] :: rows) ∧
      (∀ table, WrittenTable table (csv outcomes).toList ↔
        table = ["filename", "valid", "error_count", "errors"] :: rows) ∧
      List.Forall₂ TellsRow outcomes rows := by
  refine ⟨outcomes.map fields, read?_csv outcomes, fun table => ⟨fun h => ?_, ?_⟩, ?_⟩
  · have hread := Table.read?_of_written h
    rw [String.ofList_toList, read?_csv] at hread
    exact (Option.some.inj hread).symm
  · rintro rfl
    exact written_csv outcomes
  · exact List.forall₂_map_right_iff.mpr (List.forall₂_same.mpr fun o _ => tellsRow_fields o)

end JsonSchema.Report
