/-
**The command line.**

Reads the files that the arguments name, runs the arguments and carries out what comes of it.
-/
import QueryAlgebra.Command.Run

namespace QueryAlgebra.Command

/-- The content of a file that can be read. -/
def readFile? (path : String) : IO (Option String) := do
  try
    return some (← IO.FS.readFile path)
  catch _ => return none

/-- Writes a file, and tells whether that was possible. -/
def writeFile (path content : String) : IO Bool := do
  try
    IO.FS.writeFile path content
    return true
  catch _ => return false

end QueryAlgebra.Command

open QueryAlgebra.Command

/-- Runs the arguments; whether the output file can be created is found out by trying. -/
def main (arguments : List String) : IO UInt32 := do
  let texts ← (inputsOf arguments).mapM fun path => return (path, ← readFile? path)
  let read := fun path => (texts.lookup path).join
  let attempt := run read (fun _ => true) arguments
  let written ←
    match attempt.written with
    | some (path, content) => writeFile path content
    | none => pure true
  let outcome := if written then attempt else run read (fun _ => false) arguments
  for line in outcome.stderr do
    (← IO.getStderr).putStrLn line
  (← IO.getStdout).putStr outcome.stdout
  return outcome.status.toUInt32
