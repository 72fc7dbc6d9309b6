import ChangeReview.CommandLine.Run

/-!
# The program

Performs the request of the command line. A diff may be given as standard input; no other program is started.
-/

namespace ChangeReview.Program

/-- The rest of an input. -/
partial def readAll (input : IO.FS.Stream) (done : ByteArray) : IO ByteArray := do
  let chunk ← input.read 65536
  if chunk.isEmpty then return done else readAll input (done ++ chunk)

/-- Whether arguments name the standard input as their diff. -/
def takesInput (args : List String) : Bool := args.contains "-" || args.contains "--diff=-"

/-- Prints what a command leaves, and gives the status to exit with. -/
def leave (printed : Printed) : IO UInt32 := do
  (← IO.getStdout).putStr printed.output.toString
  (← IO.getStderr).putStr printed.errors.toString
  return printed.status.toUInt32

end ChangeReview.Program

open ChangeReview ChangeReview.Program

/-- Runs the program. -/
def main (args : List String) : IO UInt32 := do
  match CommandLine.request (args.map Text.ofString) with
  | .error _ => leave { status := 2, errors := Printed.line "Try 'main --help' for help." }
  | .ok request =>
    let input ← if takesInput args then readAll (← IO.getStdin) .empty else pure .empty
    let text := Text.unifyBreaks (Bytes.decodeCarrying input.toList)
    match (request.perform text).on {} with
    | (.ok printed, _) => leave printed
    | (.error f, _) => leave (Printed.failed f.message)
