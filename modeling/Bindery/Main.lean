import Bindery.Command.Run

/-!
# The program

Runs a command line on the real file system, prints its output and ends with its exit code.
-/

namespace Bindery

/-- The directory part of a path; none if the path is a name alone. -/
def directoryOf? (path : String) : Option String :=
  match path.toList.reverse.dropWhile (· != '/') with
  | [] => none
  | front => some (String.ofList front.reverse)

/-- The real file system gives access to its files. -/
instance : Output.Files IO where
  read? path := do
    try return some (← IO.FS.readFile path) catch _ => return none
  write path content := do
    try
      if let some directory := directoryOf? path then IO.FS.createDirAll directory
      IO.FS.writeFile path content
      return true
    catch _ => return false

end Bindery

/-- Run the command line. -/
def main (words : List String) : IO UInt32 := do
  let outcome ← (Bindery.Command.run words : IO Bindery.Command.Outcome)
  IO.print outcome.output
  for line in outcome.report do
    IO.eprintln line
  return outcome.exitCode.toUInt32
