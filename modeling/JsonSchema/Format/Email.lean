/-!
# `JsonSchema.Format.Email` — the `email` format

A practical check: one at sign, something on both sides of it, and a dot in the domain.
-/

namespace JsonSchema.Format

/-- Whether a text is an email address. -/
def isEmail (text : String) : Bool :=
  let cs := text.toList
  let before := cs.takeWhile (· != '@')
  match cs.dropWhile (· != '@') with
  | [] => false
  | _ :: domain => !before.isEmpty && !domain.contains '@' && domain.contains '.'

end JsonSchema.Format
