/-!
# `JsonSchema.Yaml.Token` — the signs of a stream
-/

namespace JsonSchema.Yaml

/-- The signs that a stream is made of. Blocks have no sign of their own in the text: their starts
and ends come from indentation. -/
inductive Token where
  | streamEnd
  | version (major minor : Nat)
  | tagHandle (handle expansion : String)
  | documentStart
  | documentEnd
  | blockSequenceStart
  | blockMappingStart
  | blockEnd
  | flowSequenceStart
  | flowSequenceEnd
  | flowMappingStart
  | flowMappingEnd
  | blockEntry
  | flowEntry
  | key
  | value
  | alias (name : String)
  | anchor (name : String)
  | tag (handle suffix : String)
  | scalar (text : String) (plain : Bool)
deriving DecidableEq

end JsonSchema.Yaml
