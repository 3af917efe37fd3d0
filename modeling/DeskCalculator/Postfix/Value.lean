import DeskCalculator.Arithmetic
import DeskCalculator.Token

/-!
# The value of a postfix expression

A postfix expression is reduced on a stack of operands.  An operator takes the right
operand off the stack first, then the left one, and puts its value back.  The first fault
ends the reduction, and in the end exactly one operand must be left.
-/

namespace DeskCalculator.Postfix

/-- The operands after a token. -/
def reduceToken (operands : List Float) : Token → Except Fault (List Float)
  | .number x => .ok (x :: operands)
  | .operator op =>
    match operands with
    | right :: left :: below => (op.apply left right).map (· :: below)
    | _ => .error (.missingOperand op)
  | .opening => .error .strayParenthesis
  | .closing => .error .strayParenthesis

/-- The operands that a postfix expression leaves on top of given ones. -/
def reduce (operands : List Float) : List Token → Except Fault (List Float)
  | [] => .ok operands
  | token :: rest => do
    let operands ← reduceToken operands token
    reduce operands rest

/-- The value of a postfix expression. -/
def value (tokens : List Token) : Except Fault Float := do
  match ← reduce [] tokens with
  | [x] => .ok x
  | [] => .error .emptyExpression
  | operands => .error (.excessOperands operands.length)

end DeskCalculator.Postfix
