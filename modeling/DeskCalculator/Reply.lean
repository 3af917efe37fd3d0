import DeskCalculator.Fault
import DeskCalculator.Json

/-!
# Replies

What the calculator answers to one message, as a text for the conversation and as a
record.  All faults share one text; the record tells them apart.
-/

namespace DeskCalculator

/-- The answer to a message. -/
inductive Reply where
  | greeting
  | farewell
  | result (value : Float)
  | error (fault : Fault)
deriving DecidableEq

namespace Reply

/-- The value of a reply that is a result. -/
def value? : Reply → Option Float
  | result x => some x
  | _ => none

/-- The fault of a reply that is an error. -/
def fault? : Reply → Option Fault
  | error fault => some fault
  | _ => none

/-- Whether a reply ends the conversation. -/
def isFarewell : Reply → Bool
  | farewell => true
  | _ => false

/-- Whether a reply is an error. -/
def isError : Reply → Bool
  | error _ => true
  | _ => false

/-- The text of a reply. -/
def text : Reply → String
  | greeting => "Hello 👋 Tell me what you want to calculate!"
  | farewell => "Byeee 👋"
  | result x => "The result is " ++ Layout.result.text x
  | error _ => "Invalid expression 🙂"

/-- The record of a message and its reply. -/
def record (input : String) (reply : Reply) : Json.Record :=
  [("input", .text input), ("reply", .text reply.text)] ++
    match reply with
    | greeting => []
    | farewell => []
    | result x => [("value", .number x)]
    | error fault => [("error", .text fault.kind.name), ("cause", .text fault.message)]

end Reply

end DeskCalculator
