import DeskCalculator.CommandLine.Program

/-!
# The program at a terminal

A terminal reads its input byte by byte and shows its texts as they come.  A conversation is
held there turn by turn: every prompt is shown before its line is read, and every reply
before the next prompt.  The other commands read no input, and their outcome is shown at once.
-/

namespace DeskCalculator.CommandLine

/-- How a loop over turns goes on: with a calculator, or to its end with an exit code. -/
def Sequel.toSum : Sequel → Calculator ⊕ Nat
  | .next calculator => .inl calculator
  | .finished exitCode => .inr exitCode

/-- A place where input is read and texts are shown. -/
structure Terminal (m : Type → Type) where
  /-- Reads a byte; there is none at the end of the input. -/
  readByte : m (Option UInt8)
  putOutput : String → m Unit
  putErrors : String → m Unit

namespace Terminal

variable {m : Type → Type} [Monad m]

/-- Reads the next byte of a line whose bytes so far are given, the last of them first.  The
line ends with its line feed or with the input. -/
def readNext (terminal : Terminal m) (line : List UInt8) : m (List UInt8 ⊕ List UInt8) := do
  match ← terminal.readByte with
  | none => return .inr line.reverse
  | some byte =>
    return if byte = 10 then .inr (byte :: line).reverse else .inl (byte :: line)

/-- Reads a line with its line feed; at the end of the input the line is empty. -/
def readLine (terminal : Terminal m) : m (List UInt8) :=
  repeatM terminal.readNext []

/-- Prompts for a line and shows the turn after it; the result is how the conversation goes
on. -/
def takeTurn (terminal : Terminal m) (style : ChatStyle) (calculator : Calculator) :
    m (Calculator ⊕ Nat) := do
  terminal.putOutput style.prompt
  let line ← terminal.readLine
  let turn := if line.isEmpty then lastTurn else turn style calculator line
  terminal.putErrors turn.errors
  terminal.putOutput turn.output
  return turn.sequel.toSum

/-- Holds a whole conversation; the result is its exit code. -/
def chat (terminal : Terminal m) (style : ChatStyle) (strict : Bool) : m Nat := do
  terminal.putOutput style.opening
  repeatM (terminal.takeTurn style) { strict }

/-- Shows an outcome; the result is its exit code. -/
def finish (terminal : Terminal m) (outcome : Outcome) : m Nat := do
  terminal.putOutput outcome.output
  terminal.putErrors outcome.errors
  return outcome.exitCode

/-- Runs the program in the given surroundings, but with the input of the terminal; the result
is its exit code. -/
def program (terminal : Terminal m) (surroundings : Surroundings) (arguments : List String) :
    m Nat :=
  match parse surroundings.strictVariable arguments with
  | .error error => terminal.finish error.outcome
  | .ok (.run settings (.chat strict)) =>
    terminal.chat (settings.chatStyle surroundings.colorful) strict
  | .ok request => terminal.finish (request.outcome surroundings)

end Terminal

end DeskCalculator.CommandLine
