import JsonSchema.Files.FileSystem
import JsonSchema.Files.Path

/-!
# `JsonSchema.Files.FileTree` — files held in memory

A tree of files stands for the current directory and all below it. Above it there are directories
of which nothing is known.

## Contents
- **Trees.** `FileTree`, `addFile`, `addDirectory`.
- **Paths.** `FileTree.find`.
- **Interface.** `FileTree.system`.
-/

namespace JsonSchema

/-- A file or a directory. -/
inductive FileTree where
  | file (bytes : ByteArray)
  | directory (entries : List (String × FileTree))

namespace FileTree

/-- A directory without entries. -/
def empty : FileTree := .directory []

/-- What is in a directory. -/
def entries : FileTree → List (String × FileTree)
  | .file _ => []
  | .directory es => es

/-- Whether it is a directory. -/
def isDirectory : FileTree → Bool
  | .file _ => false
  | .directory _ => true

/-- Set an entry of a directory. -/
def setEntry (t : FileTree) (name : String) (entry : FileTree) : FileTree :=
  .directory (t.entries.filter (fun e => e.1 != name) ++ [(name, entry)])

/-- Put an entry at a path, together with the directories that lead there. -/
def put (t : FileTree) (entry : FileTree) : List String → FileTree
  | [] => t
  | [name] => t.setEntry name entry
  | name :: rest => t.setEntry name (((t.entries.lookup name).getD empty).put entry rest)

/-- The parts of a path that go down. -/
def steps (path : String) : List String :=
  ((Files.parts path).filter fun p => p != [] && p != ['.']).map String.ofList

/-- Write a file. -/
def addFile (t : FileTree) (path : String) (bytes : ByteArray) : FileTree :=
  t.put (.file bytes) (steps path)

/-- What parts of a path lead to, going up by way of the directories that have been passed. -/
def walk (passed : List FileTree) (here : FileTree) : List (List Char) → Except FileFault FileTree
  | [] => .ok here
  | part :: rest =>
    match here with
    | .file _ => .error .notDirectory
    | .directory es =>
      if part = [] ∨ part = ['.'] then walk passed here rest
      else if part = ['.', '.'] then
        match passed with
        | [] => walk [] empty rest
        | above :: passed => walk passed above rest
      else
        match es.lookup (String.ofList part) with
        | some t => walk (here :: passed) t rest
        | none => .error .notFound

/-- What a path leads to. -/
def find (t : FileTree) (path : String) : Except FileFault FileTree :=
  if path.isEmpty || path.toList.head? == some '/' then .error .notFound
  else walk [] t (Files.parts path)

/-- Make a directory, unless there is one. -/
def addDirectory (t : FileTree) (path : String) : FileTree :=
  match t.find path with
  | .ok (.directory _) => t
  | _ => t.put empty (steps path)

/-- The text of a file. -/
def read (t : FileTree) (path : String) : Except FileFault String :=
  match t.find path with
  | .error fault => .error fault
  | .ok (.directory _) => .error .isDirectory
  | .ok (.file bytes) => textOf bytes

/-- The interface to a tree. -/
def system {m : Type → Type} [Monad m] (t : FileTree) : FileSystem m where
  read path := pure (t.read path)
  leads path := pure ((t.find path).toOption.isSome)
  isDirectory path := pure ((t.find path).toOption.any isDirectory)
  names path := pure (((t.find path).toOption.map entries).getD [] |>.map Prod.fst)

end FileTree

end JsonSchema
