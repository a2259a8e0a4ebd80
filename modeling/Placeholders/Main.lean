import Placeholders.CommandLine.Report

/-!
# The program

Looks up the files that the arguments name, calls the program, and does what the report says.
-/

namespace Placeholders.CommandLine

/-- The obstacle of an error number, which may have its sign turned. -/
def obstacleOfNumber? (code : UInt32) : Option Obstacle :=
  Obstacle.ofCode? (min code.toNat (0 - code).toNat)

/-- The obstacle that an error is about. -/
def obstacleOf? : IO.Error → Option Obstacle
  | .noFileOrDirectory _ code _ | .inappropriateType _ code _ | .invalidArgument _ code _
  | .resourceExhausted _ code _ | .noSuchThing _ code _ => obstacleOfNumber? code
  | .illegalOperation code _ | .otherError code _ => obstacleOfNumber? code
  | _ => none

/-- What is at the end of a path. Whether a file could be made shows when it is made. -/
def lookUp (path : String) : IO Place := do
  try
    return .text (← IO.FS.readFile path)
  catch e =>
    match obstacleOf? e with
    | some .isFolder | none => return .unreadable
    | some _ => return .vacant none

/-- The files that an invocation reads. -/
def lookUpInputs (inv : Invocation) : IO (List (String × Place)) :=
  inv.inputs.mapM fun path => return (path, ← lookUp path)

/-- Prints a report and answers its exit code. -/
def deliver (report : Report) : IO UInt32 := do
  (← IO.getStdout).putStr report.output
  match report.ending with
  | .failed complaint => (← IO.getStderr).putStr ("Error: " ++ complaint ++ "\n")
  | .misused => (← IO.getStderr).putStr ("\n\n".intercalate Topic.program.parts ++ "\n")
  | .done => pure ()
  return UInt32.ofNat report.ending.code

/-- Writes the file of a report; if that fails, the report says so. -/
def writeFile (inv : Invocation) (report : Report) : IO Report :=
  match report.written with
  | none => return report
  | some (path, content) => do
    try
      IO.FS.writeFile path content
      return report
    catch e => return .failure (inv.writeComplaint path (obstacleOf? e))

end Placeholders.CommandLine

open Placeholders.CommandLine

/-- The program. -/
def main (args : List String) : IO UInt32 := do
  match Invocation.ofArguments args with
  | .error stop => deliver stop.report
  | .ok inv =>
    let places ← lookUpInputs inv
    let look path := (places.lookup path).getD (.vacant none)
    deliver (← writeFile inv (inv.run look))
