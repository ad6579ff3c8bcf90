import JsonSchema.Pattern.Dialect
import JsonSchema.Pattern.Notation
import JsonSchema.Pattern.Matcher

/-!
# `JsonSchema.Pattern.Basic` — compiled patterns

## Contents
- **Patterns.** `Pattern`, `Pattern.compile?` (of the notation of schemas), `Pattern.found`.
-/

namespace JsonSchema

/-- A pattern that is ready to be looked for. -/
structure Pattern where
  expr : Pattern.Expr

namespace Pattern

/-- The pattern that a schema writes; `none` if it is not one. -/
def compile? (source : String) : Option Pattern :=
  (Notation.parse? (Dialect.expand source)).map Pattern.mk

/-- Whether the pattern is found anywhere in a text. -/
def found (p : Pattern) (text : String) : Bool := p.expr.foundIn text.toList.toArray

end Pattern

end JsonSchema
