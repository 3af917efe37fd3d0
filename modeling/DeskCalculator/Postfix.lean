import DeskCalculator.Token

/-!
# Postfix order

An expression in infix order is brought into postfix order with a stack of pending
operators and opening parentheses.  A number goes to the output.  An operator first sends
the pending operators that bind at least as tightly to the output, so that operators of
one precedence associate to the left.  A closing parenthesis sends all operators above the
last opening one to the output, and takes that one off.

Nothing is refused here.  A closing parenthesis without an opening one empties the stack;
an opening parenthesis without a closing one is sent to the output at the end.
-/

namespace DeskCalculator.Postfix

/-- An entry of the stack: an operator, or an opening parenthesis. -/
inductive Pending where
  | operator (op : Operator)
  | opening
deriving DecidableEq

/-- The token of a pending entry. -/
def Pending.token : Pending → Token
  | operator op => .operator op
  | opening => .opening

/-- The pending operators on top of the stack that bind at least as tightly as `op`, and
the stack below them. -/
def popTighter (op : Operator) : List Pending → List Token × List Pending
  | .operator top :: stack =>
    if top.precedence < op.precedence then
      ([], .operator top :: stack)
    else
      let (output, below) := popTighter op stack
      (.operator top :: output, below)
  | stack => ([], stack)

/-- The pending operators above the last opening parenthesis, and the stack below it. -/
def popGroup : List Pending → List Token × List Pending
  | [] => ([], [])
  | .opening :: stack => ([], stack)
  | .operator top :: stack =>
    let (output, below) := popGroup stack
    (.operator top :: output, below)

/-- What a token sends to the output, and the stack after it. -/
def step (stack : List Pending) : Token → List Token × List Pending
  | .number x => ([.number x], stack)
  | .operator op =>
    let (output, below) := popTighter op stack
    (output, .operator op :: below)
  | .opening => ([], .opening :: stack)
  | .closing => popGroup stack

/-- The postfix order of tokens that follow a pending stack. -/
def convert (stack : List Pending) : List Token → List Token
  | [] => stack.map Pending.token
  | token :: rest =>
    let (output, stack) := step stack token
    output ++ convert stack rest

/-- The postfix order of an expression in infix order. -/
def ofTokens (tokens : List Token) : List Token :=
  convert [] tokens

end DeskCalculator.Postfix
