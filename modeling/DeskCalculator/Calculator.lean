import DeskCalculator.Expression
import DeskCalculator.Reply
import DeskCalculator.Text.Lowercase

/-!
# The calculator

A calculator answers messages.  A message that mentions a greeting word is greeted, one
that mentions a farewell word ends the conversation, and every other message is evaluated.
A word is mentioned if it occurs anywhere in the lower-case form of the message, and an
empty word never is.  The calculator remembers the value of the last result; no other
reply changes it.
-/

namespace DeskCalculator

/-- Whether a text begins at some place with the characters of `word`. -/
def Text.occurs (word : List Char) : List Char → Bool
  | [] => word.isEmpty
  | c :: rest => word.isPrefixOf (c :: rest) || Text.occurs word rest

/-- A text contains a word exactly if the word occurs in it. -/
theorem Text.occurs_iff (word text : List Char) :
  Text.occurs word text = true ↔ word <:+: text
  := by
  induction text with
  | nil => simp [Text.occurs]
  | cons c rest ih =>
    rw [Text.occurs, Bool.or_eq_true, ih, List.isPrefixOf_iff_prefix, List.infix_cons_iff]

/-- A conversation: its words, its way of reading expressions and the last result. -/
structure Calculator where
  greetings : List String := ["hi", "hello", "hey"]
  farewells : List String := ["bye", "exit", "quit"]
  /-- Whether characters that belong to no expression are refused. -/
  strict : Bool := false
  lastResult : Option Float := none
deriving DecidableEq

namespace Calculator

/-- Whether a lower-case text mentions one of the words. -/
def mentions (text : List Char) (words : List String) : Bool :=
  words.any fun word => !word.isEmpty && Text.occurs word.toList text

/-- The reply to a message. -/
def reply (calculator : Calculator) (message : String) : Reply :=
  let text := Text.lowercase message.toList
  if mentions text calculator.greetings then
    .greeting
  else if mentions text calculator.farewells then
    .farewell
  else
    match Expression.value calculator.strict message with
    | .ok x => .result x
    | .error fault => .error fault

/-- The calculator after a reply. -/
def remember (calculator : Calculator) (reply : Reply) : Calculator :=
  match reply with
  | .result x => { calculator with lastResult := some x }
  | _ => calculator

/-- The reply to a message, and the calculator after it. -/
def respond (calculator : Calculator) (message : String) : Reply × Calculator :=
  let reply := calculator.reply message
  (reply, calculator.remember reply)

/-- The calculator without a last result. -/
def clear (calculator : Calculator) : Calculator :=
  { calculator with lastResult := none }

/-- The replies to several messages in a row. -/
def respondAll (calculator : Calculator) : List String → List Reply
  | [] => []
  | message :: rest =>
    let (reply, calculator) := calculator.respond message
    reply :: calculator.respondAll rest

end Calculator

end DeskCalculator
