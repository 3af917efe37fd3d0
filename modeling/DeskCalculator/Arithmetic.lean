import DeskCalculator.Fault

/-!
# Arithmetic

The value of one operation on doubles.  Every operation has a value, the infinities and
the undefined one included, except a division by zero of either sign.
-/

namespace DeskCalculator

/-- The value of `a op b`; a divisor equal to zero is refused. -/
def Operator.apply (op : Operator) (a b : Float) : Except Fault Float :=
  match op with
  | add => .ok (a + b)
  | subtract => .ok (a - b)
  | multiply => .ok (a * b)
  | divide => if b == 0 then .error .divisionByZero else .ok (a / b)

end DeskCalculator
