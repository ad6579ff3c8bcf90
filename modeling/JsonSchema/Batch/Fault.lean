import JsonSchema.Glob.Pattern

/-!
# `JsonSchema.Batch.Fault` — why a batch gives no outcomes
-/

namespace JsonSchema

/-- Why a batch gives no outcomes. -/
inductive BatchError where
  | invalidPattern (pattern : String) (error : Glob.Error)
  | noInputs (patterns : List String)
  | cancelled
deriving DecidableEq

/-- The wording of an error in a batch. -/
def BatchError.message : BatchError → String
  | .invalidPattern pattern error =>
    "invalid glob pattern '" ++ pattern ++ "': " ++ error.message
  | .noInputs patterns => "no input files matched: " ++ ", ".intercalate patterns
  | .cancelled => "cancelled by user"

end JsonSchema
