import DeskCalculator.Calculator
import DeskCalculator.CommandLine.Outcome
import DeskCalculator.Event

/-!
# Conversations

The command `chat` opens with a welcome and then prompts for one line after the other.  A
line without its surrounding white space is a message; an empty one gets no reply.  The
conversation ends after a farewell or with the input, and fails at a line that is no text.
In a verbose conversation the cause of an error stands below the reply.
-/

namespace DeskCalculator.CommandLine

/-- The opening message. -/
def welcome : String :=
  "Hello! I am your Stack-Based AI Calculator.\nTry: 10 + 5 * 3 or ( 8 + 2 ) * 5"

/-- How a conversation is shown: the labels of the two speakers, and whether causes and
events are shown. -/
structure ChatStyle where
  agent : String
  user : String
  verbose : Bool

namespace ChatStyle

/-- A conversation without colours. -/
def plain (verbose : Bool) : ChatStyle :=
  ⟨"Agent 🤖:", "You 🙂:", verbose⟩

/-- A conversation with the one speaker in cyan and the other in bold type. -/
def colored (verbose : Bool) : ChatStyle :=
  ⟨"\x1b[36mAgent 🤖:\x1b[39m", "\x1b[1mYou 🙂:\x1b[0m", verbose⟩

/-- The output before the first prompt. -/
def opening (style : ChatStyle) : String :=
  style.agent ++ " " ++ welcome ++ "\n\n"

/-- The prompt for a line. -/
def prompt (style : ChatStyle) : String :=
  style.user ++ " "

/-- The cause of an error below its reply. -/
def cause (style : ChatStyle) (reply : Reply) : String :=
  match reply with
  | .error fault => if style.verbose then "  (" ++ fault.message ++ ")\n" else ""
  | _ => ""

/-- The output for a reply. -/
def replyText (style : ChatStyle) (reply : Reply) : String :=
  style.agent ++ " " ++ reply.text ++ "\n" ++ style.cause reply ++ "\n"

end ChatStyle

/-- The message in a line of input. -/
def messageOf (line : String) : String :=
  String.ofList (Text.trim line.toList)

/-- How a conversation goes on. -/
inductive Sequel where
  | next (calculator : Calculator)
  | finished (exitCode : Nat)

/-- What follows a line: the output, the error text, and how the conversation goes on. -/
structure Turn where
  output : String
  errors : String
  sequel : Sequel

/-- The turn after a line that is a text. -/
def answer (style : ChatStyle) (calculator : Calculator) (line : String) : Turn :=
  let message := messageOf line
  if message.isEmpty then
    ⟨"", "", .next calculator⟩
  else
    let (reply, calculator) := calculator.respond message
    { output := style.replyText reply
      errors := Event.log style.verbose (Event.ofReply message reply)
      sequel := if reply.isFarewell then .finished Outcome.success else .next calculator }

/-- The lines of the input, each with its line feed. -/
def inputLines : List UInt8 → List (List UInt8)
  | [] => []
  | byte :: rest =>
    if byte = 10 then
      [byte] :: inputLines rest
    else
      match inputLines rest with
      | [] => [[byte]]
      | line :: later => (byte :: line) :: later

/-- The text that bytes encode, if they encode one. -/
def textOf? (bytes : List UInt8) : Option String :=
  String.fromUTF8? bytes.toByteArray

/-- The turn after a line of input. -/
def turn (style : ChatStyle) (calculator : Calculator) (line : List UInt8) : Turn :=
  match textOf? line with
  | none => ⟨"", Outcome.report invalidText, .finished Outcome.failure⟩
  | some text => answer style calculator text

/-- The turn after the end of the input. -/
def lastTurn : Turn :=
  ⟨"\n", "", .finished Outcome.success⟩

/-- The outcome of a conversation from a prompt on. -/
def converse (style : ChatStyle) (calculator : Calculator) : List (List UInt8) → Outcome
  | [] => ⟨Outcome.success, style.prompt ++ lastTurn.output, lastTurn.errors⟩
  | line :: rest =>
    let turn := turn style calculator line
    Outcome.after (style.prompt ++ turn.output) turn.errors <|
      match turn.sequel with
      | .finished exitCode => ⟨exitCode, "", ""⟩
      | .next calculator => converse style calculator rest

/-- The outcome of a whole conversation. -/
def chat (style : ChatStyle) (strict : Bool) (input : List UInt8) : Outcome :=
  Outcome.after style.opening "" (converse style { strict } (inputLines input))

end DeskCalculator.CommandLine
