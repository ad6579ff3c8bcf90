import JsonSchema.Report.Text
import JsonSchema.Report.Json
import JsonSchema.Report.Csv

/-!
# `JsonSchema.Report.Options` — which report to write

## Contents
- **Reports on outcomes.** `OutputFormat`, `Options`, `Options.render?`.
- **Reports on schemas.** `AuditFormat`, `renderAudit`.
-/

namespace JsonSchema.Report

/-- The forms of a report on outcomes. -/
inductive OutputFormat where
  | text | json | csv
deriving DecidableEq

/-- How a report on outcomes is written, and whether it is. -/
structure Options where
  output : OutputFormat
  color : Bool
  quiet : Bool
deriving DecidableEq

/-- The report on outcomes; `none` when it is to be quiet. -/
def Options.render? (o : Options) (outcomes : List Outcome) : Option String :=
  if o.quiet then none
  else some <|
    match o.output with
    | .text => text o.color outcomes
    | .json => json outcomes
    | .csv => csv outcomes

/-- The forms of a report on a schema. -/
inductive AuditFormat where
  | text | json
deriving DecidableEq

/-- The report on the warnings about a schema. -/
def renderAudit (output : AuditFormat) (color : Bool) (filename : String)
    (warnings : List Warning) : String :=
  match output with
  | .text => auditText color filename warnings
  | .json => auditJson filename warnings

end JsonSchema.Report
