import JsonSchema.Proofs.Report.Lossless
import JsonSchema.Proofs.Report.Table
import JsonSchema.Report.Text

/-!
# `JsonSchema.Proofs.Report.Agreement` — the three reports say the same

The reports are written apart from one another. What they say of a file in common is its name, whether it
is valid, and how many violations it has; a program can take this from the report in JSON and from the
one in comma-separated values. Both give the same, and the last line of the report in text counts it.

## Contents
- **Digests.** `Digest`, and what a reader takes from either report: `Digest.ofJson?`, `Digest.ofCsv?`.
- **Last lines.** `IsLastLine`, `tally`, and `isLastLine_text`.
- **Agreement.** `reports_agree`.
-/

namespace JsonSchema.Report

/-! ## Digests -/

/-- What the reports say of a file in common. -/
structure Digest where
  filename : String
  valid : Bool
  errors : Nat
deriving DecidableEq

namespace Digest

/-- The digest of an outcome. -/
def ofOutcome (o : Outcome) : Digest := ⟨o.filename, o.succeeded, o.count⟩

/-- What an object says of a file. -/
def ofFile? (file : Value) : Option Digest :=
  match found file "filename", found file "valid", found file "errors" with
  | some (.string filename), some (.bool valid), some (.array errors) =>
    some ⟨filename, valid, errors.length⟩
  | _, _, _ => none

/-- What a report in JSON says of files. -/
def ofJson? (text : String) : Option (List Digest) :=
  match Json.read text with
  | .ok (.array files) => files.mapM ofFile?
  | _ => none

/-- The flag that a word is. -/
def flag? (word : String) : Option Bool :=
  if word = "true" then some true else if word = "false" then some false else none

/-- What a row says of a file. -/
def ofRow? : List String → Option Digest
  | [filename, flag, count, _] => do return ⟨filename, ← flag? flag, ← Text.numeral? 10 count.toList⟩
  | _ => none

/-- What a report in comma-separated values says of files, under the names of its columns. -/
def ofCsv? (text : String) : Option (List Digest) :=
  match Table.read? text with
  | some (titles :: rows) => if titles = header then rows.mapM ofRow? else none
  | _ => none

theorem ofFile?_outcomeValue (o : Outcome) : ofFile? (outcomeValue o) = some (ofOutcome o) := by
  have hvalid : found (outcomeValue o) "valid" = some (.bool o.succeeded) := rfl
  have herrors : found (outcomeValue o) "errors" = some (.array (o.violations.map violationValue)) := rfl
  have hlength : (o.violations.map violationValue).length = o.count :=
    (List.length_map _).trans Outcome.length_violations
  rw [ofFile?, (tells_outcomeValue o).filename, hvalid, herrors]
  show some (Digest.mk _ _ _) = _
  rw [hlength]
  rfl

theorem ofRow?_fields (o : Outcome) : ofRow? (fields o) = some (ofOutcome o) := by
  have hflag : flag? (if o.succeeded then "true" else "false") = some o.succeeded := by
    cases o.succeeded <;> rfl
  have hcount : Text.numeral? 10 (toString o.count).toList = some o.count := by
    have hdigits : (toString o.count).toList = Nat.toDigits 10 o.count := Nat.toList_repr
    rw [hdigits, Text.numeral?_toDigits]
  rw [fields, ofRow?, hflag, hcount]
  rfl

/-- Reading what is written of each of some things. -/
theorem mapM_map_of_some {α β γ : Type} {write : α → β} {read : β → Option γ} {view : α → γ}
    (h : ∀ a, read (write a) = some (view a)) (l : List α) :
    (l.map write).mapM read = some (l.map view) := by
  have hread : read ∘ write = fun a => some (view a) := funext h
  rw [List.mapM_map, hread]
  exact List.mapM_pure

/-- **The report in JSON gives the digests.** -/
theorem ofJson?_json (outcomes : List Outcome) : ofJson? (json outcomes) = some (outcomes.map ofOutcome) := by
  rw [ofJson?, read_json]
  exact mapM_map_of_some ofFile?_outcomeValue outcomes

/-- **The report in comma-separated values gives the digests.** -/
theorem ofCsv?_csv (outcomes : List Outcome) : ofCsv? (csv outcomes) = some (outcomes.map ofOutcome) := by
  rw [ofCsv?, read?_csv]
  show (if header = header then _ else none) = _
  rw [if_pos rfl]
  exact mapM_map_of_some ofRow?_fields outcomes

end Digest

/-! ## Last lines -/

/-- A text ends with a line break. -/
def Ended (chars : List Char) : Prop := chars.getLast? = some '\n'

theorem Ended.append {front back : List Char} (h : back = [] ∧ Ended front ∨ Ended back) :
    Ended (front ++ back) := by
  rcases h with ⟨rfl, hfront⟩ | hback
  · rwa [List.append_nil]
  · rw [Ended, List.getLast?_append, hback]
    rfl

/-- Lines one after the other end with a line break, if there is any. -/
theorem ended_flatMap {α : Type} {line : α → List Char} (h : ∀ a, Ended (line a)) (l : List α) :
    l.flatMap line = [] ∨ Ended (l.flatMap line) := by
  induction l with
  | nil => exact .inl rfl
  | cons a rest ih =>
      rw [List.flatMap_cons]
      exact .inr (.append (ih.imp_left fun hnil => ⟨hnil, h a⟩))

/-- A text ends with a line, which is its first or comes after a line break. -/
def IsLastLine (line text : String) : Prop :=
  ∃ before, text.toList = before ++ line.toList ++ ['\n'] ∧ '\n' ∉ line.toList ∧
    (before = [] ∨ Ended before)

/-- The line that counts files. -/
def tally (files valid invalid : Nat) : String :=
  toString files ++ " file(s): " ++ toString valid ++ " valid, " ++ toString invalid ++ " invalid"

theorem lineFeed_not_mem_toDigits (n : Nat) : '\n' ∉ Nat.toDigits 10 n := by
  intro hmem
  have hdigit := Nat.isDigit_of_mem_toDigits (by decide) (by decide) hmem
  exact absurd hdigit (by decide)

theorem lineFeed_not_mem_tally (files valid invalid : Nat) : '\n' ∉ (tally files valid invalid).toList := by
  simp [tally, lineFeed_not_mem_toDigits]

theorem ended_lineFeed (front : String) : Ended (front ++ "\n").toList := by
  rw [String.toList_append]
  exact .append (.inr rfl)

/-- **The lines about a file end with a line break.** -/
theorem ended_fileText (color : Bool) (o : Outcome) : Ended (fileText color o).toList := by
  let line (v : Violation) : List Char := ("    " ++ v.display ++ "\n").toList
  have hviolations : o.violations.flatMap line = [] ∨ Ended (o.violations.flatMap line) :=
    ended_flatMap (fun v => ended_lineFeed _) o.violations
  rw [fileText, String.toList_append, String.toList_join, List.flatMap_map]
  refine .append (hviolations.imp_left fun hnil => ⟨hnil, ?_⟩)
  cases o.problem with
  | none =>
      rw [String.toList_append]
      exact .append (.inl ⟨rfl, ended_lineFeed _⟩)
  | some reason =>
      rw [String.toList_append]
      exact .append (.inr (ended_lineFeed _))

theorem summary_eq (outcomes : List Outcome) :
    summary outcomes = tally outcomes.length (outcomes.countP Outcome.succeeded)
      (outcomes.countP fun o => !o.succeeded) ++ "\n" := by
  have hrest : outcomes.length - outcomes.countP Outcome.succeeded =
      outcomes.countP fun o => !o.succeeded := by
    have hall := List.length_eq_countP_add_countP Outcome.succeeded (l := outcomes)
    simp only [Bool.not_eq_true, Bool.decide_eq_false] at hall
    omega
  have hend : " invalid\n" = " invalid" ++ "\n" := by decide
  rw [summary, ← List.countP_eq_length_filter, hrest, tally, hend, ← String.append_assoc]

/-- **The report on several files ends with the line that counts them.** -/
theorem isLastLine_text (color : Bool) {outcomes : List Outcome} (h : 1 < outcomes.length) :
    IsLastLine (tally outcomes.length (outcomes.countP Outcome.succeeded)
      (outcomes.countP fun o => !o.succeeded)) (text color outcomes) := by
  refine ⟨_, ?_, lineFeed_not_mem_tally _ _ _, ended_flatMap (ended_fileText color) outcomes⟩
  rw [text, if_pos h, summary_eq, String.toList_append, String.toList_append, String.toList_join,
    List.flatMap_map, List.append_assoc]
  rfl

/-! ## Agreement -/

/-- **The three reports agree.** From the report in JSON and from the one in comma-separated values a
reader takes the same digests, one for each outcome and in order: its file name, whether it succeeded, and
how many violations it has. As many are marked valid as outcomes succeeded; on several files the report in
text ends with a line that counts these and the others; and all have succeeded if all are marked valid. -/
theorem reports_agree (outcomes : List Outcome) (color : Bool) :
    ∃ digests : List Digest,
      Digest.ofJson? (json outcomes) = some digests ∧ Digest.ofCsv? (csv outcomes) = some digests ∧
      digests.length = outcomes.length ∧
      digests.map Digest.filename = outcomes.map Outcome.filename ∧
      digests.map Digest.valid = outcomes.map Outcome.succeeded ∧
      digests.map Digest.errors = outcomes.map Outcome.count ∧
      digests.countP Digest.valid = outcomes.countP Outcome.succeeded ∧
      (1 < outcomes.length → IsLastLine (tally digests.length (digests.countP Digest.valid)
        (digests.countP fun d => !d.valid)) (text color outcomes)) ∧
      (allSucceeded outcomes = true ↔ digests.countP Digest.valid = digests.length) := by
  have hlength : (outcomes.map Digest.ofOutcome).length = outcomes.length := List.length_map _
  have hvalid : (outcomes.map Digest.ofOutcome).countP Digest.valid =
      outcomes.countP Outcome.succeeded := List.countP_map
  have hinvalid : (outcomes.map Digest.ofOutcome).countP (fun d => !d.valid) =
      outcomes.countP fun o => !o.succeeded := List.countP_map
  refine ⟨outcomes.map Digest.ofOutcome, Digest.ofJson?_json outcomes, Digest.ofCsv?_csv outcomes, hlength,
    List.map_map, List.map_map, List.map_map, hvalid, fun h => ?_, ?_⟩
  · rw [hlength, hvalid, hinvalid]
    exact isLastLine_text color h
  · rw [hvalid, hlength, List.countP_eq_length, allSucceeded, List.all_eq_true]

end JsonSchema.Report
