import JsonSchema.Files.FileSystem
import JsonSchema.Files.Path
import JsonSchema.Glob.Pattern

/-!
# `JsonSchema.Glob.Search` — the paths that a pattern matches

## Contents
- **One directory.** `child`, `specials`.
- **Search.** `search`, `matches`.
-/

namespace JsonSchema.Glob

variable {m : Type → Type} [Monad m]

/-! ## One directory -/

/-- A name inside a directory; the current directory is not written. -/
def child (directory name : String) : String :=
  if Files.isCurrent directory then name else Files.join directory name

/-- The parts that stay in place or lead upwards, which only a pattern with a dot at its start
matches. -/
def specials (pieces : List Piece) : List String :=
  if pieces.head? = some (.exactly '.') then
    [".", ".."].filter fun name => matchesAll pieces name.toList
  else []

/-- A name that has to be there: in a directory the two special ones always are. -/
def isThere (fs : FileSystem m) (directory name : String) : m Bool :=
  if name = "." ∨ name = ".." then fs.isDirectory directory else fs.leads (child directory name)

/-! ## Search -/

/-- The parts after any number of directory signs. -/
def dropDirectories (parts : List Part) : List Part := parts.dropWhile (· == .directories)

/-- The results of a search for each of some names, one after the other. -/
def gather (names : List String) (search : String → m (List String)) : m (List String) := do
  return (← names.mapM search).flatten

/-- The paths below a directory that match parts. Each step goes one part or one directory
further, and `limit` bounds the number of steps. -/
def search (fs : FileSystem m) : Nat → List Part → String → m (List String)
  | 0, _, _ => return []
  | _, [], path => return [path]
  | limit + 1, .named name :: parts, path => do
    if ← isThere fs path name then search fs limit parts (child path name) else return []
  | limit + 1, .like pieces :: parts, path => do
    if ← fs.isDirectory path then
      let names := (← fs.names path).filter fun name => matchesAll pieces name.toList
      let below ← gather names fun name => search fs limit parts (child path name)
      let beside ← gather (specials pieces) fun name => search fs limit parts (Files.join path name)
      return below ++ beside
    else return []
  | limit + 1, .directories :: parts, path => do
    if ← fs.isDirectory path then
      gather (← fs.names path) fun name => do
        let path := child path name
        let deeper ←
          if ← fs.isDirectory path then search fs limit (.directories :: parts) path
          else pure []
        match dropDirectories parts with
        | [] => return if ← fs.isDirectory path then path :: deeper else deeper
        | part :: parts =>
          if part.covers name then return (← search fs limit parts path) ++ deeper
          else return deeper
    else return []

/-- The number of steps that a search may take: more than a path can be long. -/
def searchLimit : Nat := 5000

/-- All paths that a pattern matches. -/
def Pattern.matches (fs : FileSystem m) (p : Pattern) : m (List String) := do
  let found ← search fs (searchLimit + p.parts.length) p.parts (if p.absolute then "/" else ".")
  if p.directoryOnly then found.filterM fs.isDirectory else return found

end JsonSchema.Glob
