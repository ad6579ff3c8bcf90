import JsonSchema.Format.Registry
import JsonSchema.Format.Email
import JsonSchema.Format.Date
import JsonSchema.Format.Uri

/-!
# `JsonSchema.Format.Builtin` — the formats that are known from the start
-/

namespace JsonSchema.FormatRegistry

/-- The checkers of `email`, `date` and `uri`. -/
def builtin : FormatRegistry :=
  ((empty.register "email" Format.isEmail).register "date" Format.isDate).register "uri"
    Format.isUri

end JsonSchema.FormatRegistry
