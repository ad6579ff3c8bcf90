import JsonSchema.Unicode.Category
import JsonSchema.Unicode.Script
import JsonSchema.Unicode.Property

/-!
# `JsonSchema.Unicode.Named` — sets of code points by name

Names are matched loosely: letter case, blanks, hyphens and underscores do not count, and neither
does a leading `is`.

## Contents
- **Names.** `looseName`.
- **Sets.** `CodeSet`, `category?`, `script?`, `named?`, `namedValue?`.
-/

namespace JsonSchema.Unicode

/-- A union of tables, or the complement of one. -/
structure CodeSet where
  tables : List Ranges
  complement : Bool

/-- Whether a set holds a code point. -/
def CodeSet.contains (s : CodeSet) (n : Nat) : Bool :=
  (s.tables.any fun t => t.contains n) != s.complement

/-- A name without what does not count in it. -/
def looseName (name : String) : String :=
  let small := fun c : Char => if 'A' ≤ c ∧ c ≤ 'Z' then Char.ofNat (c.toNat + 32) else c
  let keep := fun c : Char => c != ' ' && c != '_' && c != '-' && c.toNat < 128
  let clean := fun cs : List Char => (cs.filter keep).map small
  match name.toList with
  | i :: s :: rest =>
    if small i = 'i' ∧ small s = 's' then
      if clean rest = ['c'] then "isc" else String.ofList (clean rest)
    else String.ofList (clean (i :: s :: rest))
  | cs => String.ofList (clean cs)

/-- A general category, a group of them, or one of the sets `any`, `ascii` and `assigned`. -/
def category? (loose : String) : Option CodeSet :=
  if loose = "any" then some ⟨[[(0, 0x10FFFF)]], false⟩
  else if loose = "ascii" then some ⟨[[(0, 0x7F)]], false⟩
  else if loose = "assigned" then some ⟨Category.assigned, false⟩
  else if loose = "cn" ∨ loose = "unassigned" then some ⟨Category.assigned, true⟩
  else if loose = "c" ∨ loose = "other" then
    some ⟨[Category.uppercaseLetter, Category.lowercaseLetter, Category.titlecaseLetter,
      Category.modifierLetter, Category.otherLetter, Category.nonspacingMark,
      Category.spacingMark, Category.enclosingMark, Category.decimalNumber,
      Category.letterNumber, Category.otherNumber, Category.connectorPunctuation,
      Category.dashPunctuation, Category.openPunctuation, Category.closePunctuation,
      Category.initialPunctuation, Category.finalPunctuation, Category.otherPunctuation,
      Category.mathSymbol, Category.currencySymbol, Category.modifierSymbol,
      Category.otherSymbol, Category.spaceSeparator, Category.lineSeparator,
      Category.paragraphSeparator], true⟩
  else (Category.names.find? fun e => e.1.contains loose).map fun e => ⟨e.2, false⟩

/-- A script, or what its extensions name. -/
def script? (extended : Bool) (loose : String) : Option CodeSet :=
  (Script.table.find? fun e => e.names.contains loose).map fun e =>
    ⟨[if extended then e.extensions.getD e.ranges else e.ranges], false⟩

/-- The set that one name stands for. Three short names of categories are also those of other
properties and mean the category. -/
def named? (name : String) : Option CodeSet :=
  let loose := looseName name
  let property :=
    if loose = "cf" ∨ loose = "sc" ∨ loose = "lc" then none
    else Property.names.find? fun e => e.1.contains loose
  match property with
  | some e => some ⟨[e.2], false⟩
  | none => category? loose <|> script? false loose

/-- The set that a property and a value of it stand for. -/
def namedValue? (property value : String) : Option CodeSet :=
  let loose := looseName property
  if loose = "gc" ∨ loose = "generalcategory" then category? (looseName value)
  else if loose = "sc" ∨ loose = "script" then script? false (looseName value)
  else if loose = "scx" ∨ loose = "scriptextensions" then script? true (looseName value)
  else none

end JsonSchema.Unicode
