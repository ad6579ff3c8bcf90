import JsonSchema.Batch.Outcome
import JsonSchema.Schema.Audit

/-!
# `JsonSchema.Report.Text` — reports to read on a terminal

Each file has a line with a mark, and below it one indented line for each thing that is wrong.

## Contents
- **Colour.** `Paint`, `paint`.
- **Reports.** `text` (of outcomes), `auditText` (of the warnings about a schema).
-/

namespace JsonSchema.Report

/-- The colours of a report. -/
inductive Paint where
  | good | bad | notice

/-- The terminal code of a colour. -/
def Paint.code : Paint → String
  | .good => "1;32"
  | .bad => "1;31"
  | .notice => "33"

/-- A text in a colour, or plain. -/
def paint (color : Bool) (p : Paint) (text : String) : String :=
  if color then "\x1b[" ++ p.code ++ "m" ++ text ++ "\x1b[0m" else text

/-- The mark of a file that is in order. -/
def validMark : String := "✓ VALID"

/-- The mark of a file that is not. -/
def invalidMark : String := "✗ INVALID"

/-- The lines about one file. -/
def fileText (color : Bool) (o : Outcome) : String :=
  let mark := if o.succeeded then paint color .good validMark else paint color .bad invalidMark
  let problem :=
    match o.problem with
    | some reason => "    " ++ paint color .notice "parse error" ++ ": " ++ reason ++ "\n"
    | none => ""
  mark ++ " " ++ o.filename ++ "\n" ++ problem ++
    String.join (o.violations.map fun v => "    " ++ v.display ++ "\n")

/-- The last line of a report on several files. -/
def summary (outcomes : List Outcome) : String :=
  let valid := (outcomes.filter Outcome.succeeded).length
  toString outcomes.length ++ " file(s): " ++ toString valid ++ " valid, " ++
    toString (outcomes.length - valid) ++ " invalid\n"

/-- The report on outcomes. -/
def text (color : Bool) (outcomes : List Outcome) : String :=
  String.join (outcomes.map (fileText color)) ++
    if 1 < outcomes.length then summary outcomes else ""

/-- The report on the warnings about a schema. -/
def auditText (color : Bool) (filename : String) (warnings : List Warning) : String :=
  let count :=
    if warnings.isEmpty then "" else " (" ++ toString warnings.length ++ " warning(s))"
  paint color .good validMark ++ " " ++ filename ++ count ++ "\n" ++
    String.join (warnings.map fun w =>
      "    " ++ paint color .notice "warning" ++ ": " ++ w.display ++ "\n")

end JsonSchema.Report
