import JsonSchema.Text.Split

/-!
# `JsonSchema.Files.Path` — the text of paths

## Contents
- **Parts.** `parts`, `fileName?`, `extension?`, `isCurrent`.
- **Joining.** `join`.
-/

namespace JsonSchema.Files

/-- The parts of a path between slashes, empty ones too. -/
def parts (path : String) : List (List Char) := Text.pieces '/' path.toList

/-- The last part of a path, not counting parts that are empty or stay in place; none if it leads
upwards. -/
def fileName? (path : String) : Option (List Char) :=
  match ((parts path).filter fun p => p != [] && p != ['.']).getLast? with
  | some ['.', '.'] => none
  | last => last

/-- The text after the last dot of a file name that does not begin with it. -/
def extension? (name : List Char) : Option (List Char) :=
  let after := (name.reverse.takeWhile (· != '.')).reverse
  if after.length + 1 < name.length then some after else none

/-- Whether a path is a way to write the current directory. -/
def isCurrent (path : String) : Bool :=
  let ps := parts path
  ps.head? == some ['.'] && ps.all fun p => p == [] || p == ['.']

/-- A name inside a directory. -/
def join (directory name : String) : String :=
  if directory.isEmpty then name
  else if directory.toList.getLast? = some '/' then directory ++ name
  else directory ++ "/" ++ name

end JsonSchema.Files
