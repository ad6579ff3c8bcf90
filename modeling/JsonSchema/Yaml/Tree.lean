import JsonSchema.Json.Value

/-!
# `JsonSchema.Yaml.Tree` — the YAML data model

Unlike JSON, YAML has numbers that are not finite, keys of any kind, and tags.

## Contents
- **Trees.** `TreeNumber`, its views `signed?`, `unsigned?` and `double?`, and `Tree`.
- **Tags.** `tagName`.
- **Equality.** `Tree.same`: what counts as the same key twice.
-/

namespace JsonSchema.Yaml

/-! ## Trees -/

/-- A number of YAML. -/
inductive TreeNumber where
  | finite (number : Number)
  | infinity (negative : Bool)
  | notANumber
deriving DecidableEq

/-- The text of a number as part of a JSON text. -/
def TreeNumber.write : TreeNumber → String
  | .finite n => n.write .memberName
  | .infinity false => ".inf"
  | .infinity true => "-.inf"
  | .notANumber => ".nan"

namespace TreeNumber

/-- The number as a signed 64-bit integer; doubles have no such view. -/
def signed? : TreeNumber → Option Int
  | .finite n => n.signed?
  | .infinity _ | .notANumber => none

/-- The number as an unsigned 64-bit integer; doubles have no such view. -/
def unsigned? : TreeNumber → Option Nat
  | .finite n => n.unsigned?
  | .infinity _ | .notANumber => none

/-- The number as a finite double. An integer is rounded to it. -/
def double? : TreeNumber → Option Binary64
  | .finite (.integer n _ _) => Binary64.ofRatio? (n < 0) n.natAbs 1
  | .finite (.double x) => some x
  | .infinity _ | .notANumber => none

end TreeNumber

/-- A YAML value. Entries of mappings stand in the order in which they were written. -/
inductive Tree where
  | null
  | bool (flag : Bool)
  | number (number : TreeNumber)
  | string (text : String)
  | sequence (items : List Tree)
  | mapping (entries : List (Tree × Tree))
  | tagged (tag : String) (tree : Tree)

/-! ## Tags -/

/-- A tag without the mark at its start, unless the mark is all there is. -/
def tagName (tag : String) : String :=
  match tag.toList with
  | '!' :: c :: rest => String.ofList (c :: rest)
  | _ => tag

/-! ## Equality -/

/-- Whether numbers are the same: integers and doubles never are, both zeros are, and what is not
a number is the same as itself. -/
def TreeNumber.same : TreeNumber → TreeNumber → Bool
  | .finite (.integer a _ _), .finite (.integer b _ _) => a == b
  | .finite (.double a), .finite (.double b) => a.signedUnits == b.signedUnits
  | .infinity a, .infinity b => a == b
  | .notANumber, .notANumber => true
  | _, _ => false

namespace Tree

mutual

/-- Whether trees are the same; the order of entries does not matter. -/
def same : Tree → Tree → Bool
  | .null, .null => true
  | .bool a, .bool b => a == b
  | .number a, .number b => a.same b
  | .string a, .string b => a == b
  | .sequence as, .sequence bs => sameItems as bs
  | .mapping as, .mapping bs => as.length == bs.length && sameEntries as bs
  | .tagged s a, .tagged t b => tagName s == tagName t && same a b
  | _, _ => false

/-- Whether items are the same, place by place. -/
def sameItems : List Tree → List Tree → Bool
  | [], [] => true
  | a :: as, b :: bs => same a b && sameItems as bs
  | _, _ => false

/-- Whether each entry on the left has a same one on the right. -/
def sameEntries : List (Tree × Tree) → List (Tree × Tree) → Bool
  | [], _ => true
  | (k, v) :: rest, bs => (bs.any fun e => same k e.1 && same v e.2) && sameEntries rest bs

end

end Tree

end JsonSchema.Yaml
