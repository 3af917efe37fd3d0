import DeskCalculator.Reply
import DeskCalculator.Text.Quoted

/-!
# Events

What happens while messages are answered, as data, and the line that a log has for each
event.  A line names the part of the program that reports the event.  In a line, controls
by which a terminal could be steered are written out.
-/

namespace DeskCalculator

/-- Something that happens while a message is answered. -/
inductive Event where
  | greeted (message : String)
  | parted (message : String)
  | computed (message : String) (value : Float)
  | rejected (message : String) (fault : Fault)
  /-- An operator has met fewer than two operands. -/
  | underflow (op : Operator)
  /-- A file with a number of expressions has been read. -/
  | loaded (count : Nat) (file : String)

namespace Event

/-- The events of the reply to a message. -/
def ofReply (message : String) : Reply → List Event
  | .greeting => [greeted message]
  | .farewell => [parted message]
  | .result x => [computed message x]
  | .error (.missingOperand op) => [underflow op, rejected message (.missingOperand op)]
  | .error fault => [rejected message fault]

/-- The part of the program that reports an event. -/
def origin : Event → String
  | underflow _ => "stackcalc::interpreter::evaluator"
  | loaded _ _ => "stackcalc::commands::batch"
  | _ => "stackcalc::session"

/-- The wording of an event. -/
def message : Event → String
  | greeted message => "greeting detected in " ++ Text.quote message
  | parted message => "farewell detected in " ++ Text.quote message
  | computed message x => Text.quote message ++ " = " ++ Layout.plain.text x
  | rejected message fault => Text.quote message ++ " rejected: " ++ fault.message
  | underflow op => "operand stack underflow at '" ++ op.symbol.toString ++ "'"
  | loaded count file => "loaded " ++ toString count ++ " expressions from " ++ Text.quote file

/-- A character within a log line. -/
def maskChar (c : Char) : List Char :=
  if c ∈ ['\x07', '\x08', '\x0c', '\x1b', '\x7f'] then
    let digits := Text.hexChars c.toNat
    ['\\', 'x'] ++ List.replicate (2 - digits.length) '0' ++ digits
  else if 0x80 ≤ c.toNat ∧ c.toNat ≤ 0x9f then
    ['\\', 'u', '\x7b'] ++ Text.hexChars c.toNat ++ ['\x7d']
  else
    [c]

/-- The log line of an event. -/
def line (event : Event) : String :=
  "DEBUG " ++ event.origin ++ ": " ++
    String.ofList (event.message.toList.flatMap maskChar) ++ "\n"

/-- The log of several events; nothing unless it is asked for. -/
def log (verbose : Bool) (events : List Event) : String :=
  if verbose then String.join (events.map line) else ""

end Event

end DeskCalculator
