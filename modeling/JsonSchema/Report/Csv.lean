import JsonSchema.Batch.Outcome

/-!
# `JsonSchema.Report.Csv` — reports as comma-separated values

A field is quoted when it holds a comma, a quote or a line break, and a quote inside it is doubled.

## Contents
- **Fields.** `needsQuotes`, `field`.
- **Rows.** `header`, `row`, `csv`.
-/

namespace JsonSchema.Report

/-- Whether a character forces quotes around its field. -/
def needsQuotes (c : Char) : Bool := c == ',' || c == '"' || c == '\n' || c == '\r'

/-- The written form of a field. -/
def field (text : List Char) : List Char :=
  if text.any needsQuotes then
    '"' :: (text.flatMap fun c => if c = '"' then ['"', '"'] else [c]) ++ ['"']
  else text

/-- The names of the columns. -/
def header : List String := ["filename", "valid", "error_count", "errors"]

/-- The fields about one file; a problem takes the place of the messages. -/
def fields (o : Outcome) : List String :=
  [o.filename, if o.succeeded then "true" else "false", toString o.count,
    match o.problem with
    | some reason => "parse error: " ++ reason
    | none => "; ".intercalate (o.violations.map Violation.message)]

/-- Fields as a line. -/
def row (fields : List String) : List Char :=
  List.intercalate [','] (fields.map fun f => field f.toList) ++ ['\n']

/-- The report on outcomes. -/
def csv (outcomes : List Outcome) : String :=
  String.ofList (row header ++ outcomes.flatMap fun o => row (fields o))

end JsonSchema.Report
