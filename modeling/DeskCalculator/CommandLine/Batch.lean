import DeskCalculator.Calculator
import DeskCalculator.CommandLine.Chat
import DeskCalculator.Event
import DeskCalculator.Table
import DeskCalculator.Text.Lines

/-!
# Answering a file

The command `batch` answers the lines of a file one after the other with one calculator.
Empty lines and lines that begin with `#` are passed over.  The replies are shown in a
table, with the postfix order of each expression, or as records.  A greeting or a farewell
is a reply as any other; the exit code tells whether some reply is an error.
-/

namespace DeskCalculator.CommandLine

/-- Why a file cannot be read. -/
inductive ReadFailure where
  | missing
  | directory
  | invalidText
  /-- Another reason, in the words of the operating system. -/
  | other (reason : String)
deriving DecidableEq, Repr

/-- The wording of a reason. -/
def ReadFailure.message : ReadFailure → String
  | missing => "No such file or directory (os error 2)"
  | directory => "Is a directory (os error 21)"
  | invalidText => CommandLine.invalidText
  | other reason => reason

/-- The content of a file as a text. -/
def decode (content : Except ReadFailure (List UInt8)) : Except ReadFailure String := do
  match textOf? (← content) with
  | some text => .ok text
  | none => .error .invalidText

/-- The expressions of a file. -/
def expressions (content : String) : List String :=
  let kept := ((Text.lines content.toList).map Text.trim).filter fun line =>
    !line.isEmpty && line.head? != some '#'
  kept.map String.ofList

/-- The postfix order of an expression, or a hyphen if it cannot be read. -/
def reordered (strict : Bool) (expression : String) : String :=
  match Expression.tokens strict expression with
  | .ok tokens => Token.listText (Postfix.ofTokens tokens)
  | .error _ => "-"

/-- The last cell of a reply. -/
def resultCell : Reply → String
  | .result x => Layout.result.text x
  | .error fault => "error: " ++ fault.message
  | reply => reply.text

/-- The table of expressions and their replies. -/
def resultTable (strict : Bool) (answered : List (String × Reply)) : Table where
  heading := ["Expression", "Postfix", "Result"]
  rows := answered.map fun (expression, reply) =>
    [expression, reordered strict expression, resultCell reply]

/-- The number of errors among replies. -/
def failures (replies : List Reply) : Nat :=
  replies.countP Reply.isError

/-- The output for expressions and their replies. -/
def batchOutput (strict json : Bool) (answered : List (String × Reply)) : String :=
  if json then
    Json.array (answered.map fun (expression, reply) => reply.record expression) ++ "\n"
  else
    (resultTable strict answered).text ++ "\n\n" ++
      toString answered.length ++ " expressions, " ++
      toString (failures (answered.map Prod.snd)) ++ " failed\n"

/-- The outcome of answering a file. -/
def batch (verbose strict json : Bool) (file : String)
    (content : Except ReadFailure (List UInt8)) : Outcome :=
  match decode content with
  | .error reason =>
    Outcome.failed "" <|
      "Failed to read expression file " ++ Text.quote file ++ ": " ++ reason.message
  | .ok text =>
    let messages := expressions text
    let replies := Calculator.respondAll { strict } messages
    let answered := messages.zip replies
    let events := .loaded messages.length file ::
      answered.flatMap fun (message, reply) => Event.ofReply message reply
    { exitCode := if 0 < failures replies then Outcome.dataError else Outcome.success
      output := batchOutput strict json answered
      errors := Event.log verbose events }

end DeskCalculator.CommandLine
