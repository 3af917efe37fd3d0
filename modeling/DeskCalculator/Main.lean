import DeskCalculator.CommandLine.Terminal

/-!
# The main program

Looks at the surroundings and runs the program at the console, a terminal that only reads
bytes and prints texts.
-/

namespace DeskCalculator.Main

open CommandLine

/-- Prints a text on a stream. -/
def put (stream : IO.FS.Stream) (text : String) : IO Unit := do
  stream.putStr text
  stream.flush

/-- The standard streams. -/
def console : Terminal IO where
  readByte := do
    let bytes ← (← IO.getStdin).read 1
    return bytes.toList.head?
  putOutput text := do put (← IO.getStdout) text
  putErrors text := do put (← IO.getStderr) text

/-- The content of a file, or why it cannot be read. -/
def readFile (file : String) : IO (Except ReadFailure (List UInt8)) := do
  try
    return .ok (← IO.FS.readBinFile file).toList
  catch
    | .noFileOrDirectory .. => return .error .missing
    | .inappropriateType .. => return .error .directory
    | error => return .error (.other (toString error))

/-- Whether colours are shown where nothing is said about them. -/
def isColorful : IO Bool := do
  let refused := (← IO.getEnv "NO_COLOR").any (!·.isEmpty)
  return !refused && (← (← IO.getStdout).isTty)

end DeskCalculator.Main

open DeskCalculator CommandLine in
/-- Runs the program on its arguments. -/
def main (arguments : List String) : IO UInt32 := do
  let strictVariable ← IO.getEnv "STACKCALC_STRICT"
  let colorful ← Main.isColorful
  let content ←
    match parse strictVariable arguments with
    | .ok (.run _ (.batch file ..)) => Main.readFile file
    | _ => pure (.error .missing)
  let surroundings : Surroundings :=
    { strictVariable, colorful, input := [], file := fun _ => content }
  let exitCode ← Main.console.program surroundings arguments
  return exitCode.toUInt32
