import DeskCalculator.CommandLine.Arguments
import DeskCalculator.CommandLine.Batch
import DeskCalculator.CommandLine.Chat
import DeskCalculator.CommandLine.Eval

/-!
# The program

The outcome of the whole program, given what it can see of its surroundings: the variable
that asks for strict reading, its input, and the content of files.
-/

namespace DeskCalculator.CommandLine

/-- The name and the version of the program. -/
def versionText : String :=
  "stackcalc 0.1.0\n"

/-- The help text. -/
def helpText : String :=
  "Stack-based arithmetic calculator\n\n" ++
    "Usage: stackcalc [OPTIONS] <COMMAND>\n\n" ++
    "Commands:\n" ++
    "  eval   Send one message to the calculator\n" ++
    "  chat   Start an interactive conversation\n" ++
    "  batch  Evaluate expressions from a file, one per line\n" ++
    "  help   Print this message or the help of the given subcommand(s)\n\n" ++
    "Options:\n" ++
    "      --color <COLOR>  Color output control [default: auto] " ++
    "[possible values: auto, always, never]\n" ++
    "  -v, --verbose        Show error causes and debug logging\n" ++
    "  -h, --help           Print help\n" ++
    "  -V, --version        Print version\n"

/-- The outcome of arguments that cannot be understood. -/
def UsageError.outcome (error : UsageError) : Outcome :=
  { exitCode := Outcome.usage
    output := ""
    errors := "error: " ++ error.message ++ "\n\nFor more information, try '--help'.\n" }

/-- What the program can see of its surroundings. -/
structure Surroundings where
  /-- The content of the variable that asks for strict reading, if it is set. -/
  strictVariable : Option String
  input : List UInt8
  /-- Whether colours are shown where nothing is said about them. -/
  colorful : Bool
  file : String → Except ReadFailure (List UInt8)

/-- The style of a conversation under the given settings. -/
def Settings.chatStyle (settings : Settings) (colorful : Bool) : ChatStyle :=
  match settings.color with
  | .always => .colored settings.verbose
  | .never => .plain settings.verbose
  | .auto => if colorful then .colored settings.verbose else .plain settings.verbose

/-- The outcome of a command. -/
def Command.outcome (surroundings : Surroundings) (settings : Settings) : Command → Outcome
  | .eval message strict json => CommandLine.eval settings.verbose strict json message
  | .chat strict =>
    CommandLine.chat (settings.chatStyle surroundings.colorful) strict surroundings.input
  | .batch file strict json =>
    CommandLine.batch settings.verbose strict json file (surroundings.file file)

/-- The outcome of a request. -/
def Request.outcome (surroundings : Surroundings) : Request → Outcome
  | .version => ⟨Outcome.success, versionText, ""⟩
  | .help => ⟨Outcome.success, helpText, ""⟩
  | .run settings command => command.outcome surroundings settings

/-- The outcome of the program. -/
def program (surroundings : Surroundings) (arguments : List String) : Outcome :=
  match parse surroundings.strictVariable arguments with
  | .error error => error.outcome
  | .ok request => request.outcome surroundings

end DeskCalculator.CommandLine
