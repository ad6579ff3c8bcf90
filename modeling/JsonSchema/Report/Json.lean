import JsonSchema.Batch.Outcome
import JsonSchema.Schema.Audit
import JsonSchema.Json.Printer

/-!
# `JsonSchema.Report.Json` — reports for programs

## Contents
- **Outcomes.** `violationValue`, `outcomeValue`, `json`: an array with one object for each file.
- **Warnings.** `warningValue`, `auditJson`.
-/

namespace JsonSchema.Report

/-- A violation as an object. -/
def violationValue (v : Violation) : Value :=
  .object
    [("keyword", .string v.keyword), ("path", .string v.path.pointer),
      ("message", .string v.message)]

/-- An outcome as an object. -/
def outcomeValue (o : Outcome) : Value :=
  .object <|
    [("filename", .string o.filename), ("valid", .bool o.succeeded),
      ("errors", .array (o.violations.map violationValue))] ++
    o.problem.toList.map fun reason => ("parseError", .string reason)

/-- The report on outcomes. -/
def json (outcomes : List Outcome) : String :=
  (Value.array (outcomes.map outcomeValue)).pretty ++ "\n"

/-- A warning as an object. -/
def warningValue (w : Warning) : Value :=
  .object
    [("kind", .string w.kind.name), ("keyword", .string w.keyword),
      ("path", .string w.path.pointer), ("message", .string w.message)]

/-- The report on the warnings about a schema, which is valid by then. -/
def auditJson (filename : String) (warnings : List Warning) : String :=
  (Value.object
    [("filename", .string filename), ("valid", .bool true),
      ("warnings", .array (warnings.map warningValue))]).pretty ++ "\n"

end JsonSchema.Report
