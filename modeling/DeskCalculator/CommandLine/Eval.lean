import DeskCalculator.Calculator
import DeskCalculator.CommandLine.Outcome
import DeskCalculator.Diagnostic.Report
import DeskCalculator.Event

/-!
# Answering one message

The command `eval` answers one message with a new calculator, as a text or as a record.
Its exit code tells whether the reply is an error; in a verbose run the error text then
explains the fault, by a diagnostic if the fault has a place.
-/

namespace DeskCalculator.CommandLine

/-- The explanation of a fault in the error text. -/
def explanation (message : String) (fault : Fault) : String :=
  match Diagnostic.ofFault? message fault with
  | some diagnostic => diagnostic.report
  | none => "cause: " ++ fault.message ++ "\n"

/-- The outcome of answering one message. -/
def eval (verbose strict json : Bool) (message : String) : Outcome :=
  let reply := Calculator.reply { strict } message
  let answer := if json then (reply.record message).json "" else reply.text
  let log := Event.log verbose (Event.ofReply message reply)
  match reply with
  | .error fault =>
    { exitCode := Outcome.dataError
      output := answer ++ "\n"
      errors := log ++ (if verbose && !json then explanation message fault else "") }
  | _ => ⟨Outcome.success, answer ++ "\n", log⟩

end DeskCalculator.CommandLine
