import JsonSchema.Cli.Program

/-!
# `JsonSchema.Main` — the command line

The only module that touches real files and a real terminal.
-/

namespace JsonSchema

/-- Why a file could not be read. -/
def faultOf (e : IO.Error) : FileFault :=
  match e with
  | .inappropriateType .. => .notDirectory
  | _ => .notFound

/-- The files of the machine. -/
def machine : FileSystem IO where
  read path := do
    let place := (← IO.currentDir) / path
    if ← place.isDir then return .error .isDirectory
    try
      return textOf (← IO.FS.readBinFile place)
    catch e => return .error (faultOf e)
  leads path := do return ← ((← IO.currentDir) / path).pathExists
  isDirectory path := do return ← ((← IO.currentDir) / path).isDir
  names path := do
    try
      return (← ((← IO.currentDir) / path).readDir).toList.map fun e => e.fileName
    catch _ => return []

/-- Whether the settings of the terminal ask for colours, or it is one that shows them. -/
def wantsColor : IO Bool := do
  let said (name : String) : IO (Option Bool) := do
    return (← IO.getEnv name).map fun value => value != "0"
  if (← said "CLICOLOR_FORCE") == some true then return true
  if (← said "NO_COLOR").isSome then return false
  return (← said "CLICOLOR").getD true && (← (← IO.getStdout).isTty)

end JsonSchema

open JsonSchema in
/-- Do what the arguments ask for. -/
def main (args : List String) : IO UInt32 := do
  let around : Cli.Surroundings IO :=
    { files := machine
      standardInput := do return textOf (← (← IO.getStdin).readBinToEnd)
      write := IO.print
      complain := IO.eprint
      color := ← wantsColor
      cancelled := return false }
  return (← Cli.run around args).toUInt32
