import DeskCalculator.Text.Paragraph

/-!
# Outcomes

What a run of the program leaves behind: its exit code and the two texts it has written.
A run that cannot go on writes its reason in the error text, as a report of limited width.
-/

namespace DeskCalculator.CommandLine

/-- The exit code, the output and the error text of a run. -/
structure Outcome where
  exitCode : Nat
  output : String
  errors : String
deriving DecidableEq, Repr

namespace Outcome

/-- The exit code of a run whose messages were all answered. -/
def success : Nat := 0

/-- The exit code of a run whose arguments cannot be understood. -/
def usage : Nat := 2

/-- The exit code of a run with an expression that has no value. -/
def dataError : Nat := 65

/-- The exit code of a run that cannot go on. -/
def failure : Nat := 70

/-- The report of a reason: its first line is marked by a cross, and the lines after it by
a bar; no line has more than 78 columns. -/
def report (reason : String) : String :=
  "  × " ++ "\n  │ ".intercalate ((Text.wrap 74 reason.toList).map String.ofList) ++ "\n\n"

/-- The outcome of a run that cannot go on, after some output. -/
def failed (output reason : String) : Outcome :=
  ⟨failure, output, report reason⟩

/-- An outcome with texts written before those of the run. -/
def after (output errors : String) (outcome : Outcome) : Outcome :=
  { outcome with
    output := output ++ outcome.output
    errors := errors ++ outcome.errors }

end Outcome

/-- The reason why bytes are no text. -/
def invalidText : String :=
  "stream did not contain valid UTF-8"

end DeskCalculator.CommandLine
