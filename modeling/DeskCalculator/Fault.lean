import DeskCalculator.Operator

/-!
# Faults

The ways in which a text fails to have a value.  A fault records its cause; the wording
is `Fault.message`, and `Fault.kind` keeps apart the two classes that a caller tells
from each other: a division by zero, and everything that is not an expression.
-/

namespace DeskCalculator

/-- Why an expression has no value. -/
inductive Fault where
  /-- The divisor is zero. -/
  | divisionByZero
  /-- The operator meets fewer than two operands. -/
  | missingOperand (operator : Operator)
  /-- More than one value is left at the end. -/
  | excessOperands (count : Nat)
  /-- There is nothing to evaluate. -/
  | emptyExpression
  /-- A parenthesis is left among the operands. -/
  | strayParenthesis
  /-- The character at a byte offset belongs to no expression. -/
  | unexpectedCharacter (character : Char) (offset : Nat)
deriving DecidableEq, Repr

/-- The two classes of faults. -/
inductive FaultKind where
  | divisionByZero
  | invalidExpression
deriving DecidableEq, Repr

/-- The name of a class of faults in records. -/
def FaultKind.name : FaultKind → String
  | divisionByZero => "division_by_zero"
  | invalidExpression => "invalid_expression"

namespace Fault

/-- The class of a fault: every fault but a division by zero is an invalid expression. -/
def kind : Fault → FaultKind
  | divisionByZero => .divisionByZero
  | _ => .invalidExpression

/-- The wording of a fault. -/
def message : Fault → String
  | divisionByZero => "division by zero"
  | missingOperand op => "operator '" ++ op.symbol.toString ++ "' is missing an operand"
  | excessOperands count =>
    "expression leaves " ++ toString count ++ " values instead of one"
  | emptyExpression => "expression is empty"
  | strayParenthesis => "unbalanced parenthesis"
  | unexpectedCharacter c offset =>
    "unexpected character '" ++ c.toString ++ "' at offset " ++ toString offset

end Fault

end DeskCalculator
