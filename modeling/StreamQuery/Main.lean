import StreamQuery.CommandLine

/-!
# The program

Reads the files that the arguments name and writes the statement.
-/

open StreamQuery

def readFile? (path : String) : IO (Option String) := do
  try
    return some (← IO.FS.readFile path)
  catch _ => return none

def readFiles (paths : List String) : IO (List (String × Option String)) :=
  paths.mapM fun path => do return (path, ← readFile? path)

def main (args : List String) : IO UInt32 := do
  let request := CommandLine.parse {} args
  let paths :=
    match request with
    | .run options => options.entity.toList ++ options.config.toList
    | _ => []
  let files ← readFiles paths
  let outcome := CommandLine.respond (fun path => (files.lookup path).join) request
  IO.print outcome.output
  match outcome.error with
  | some message => IO.eprintln message
  | none => pure ()
  return outcome.code.toUInt32
