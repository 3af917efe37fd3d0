import DeskCalculator.Arithmetic
import Mathlib

/-!
# Evaluation of an operation

An operation is evaluated from left to right: its left operand, its right operand, and then
the operation itself.  The first fault ends the evaluation, and the operation itself fails
exactly if it divides by one of the two zeros.
-/

namespace DeskCalculator

/-! ### The two zeros -/

/-- A zero of either sign. -/
def IsZero (b : Float) : Prop :=
  b = 0 ∨ b = -0

/-- A double compares equal to zero exactly if it is a zero of either sign. -/
theorem beq_zero_iff {b : Float} :
  b == 0 ↔ IsZero b
  := by
  constructor
  · intro h
    obtain ⟨-, -, hzero | ⟨hzero, -⟩ | ⟨hzero, -⟩⟩ := Float.beq_iff_ne_nan_and_eq.mp h
    · left
      apply hzero
    · left
      apply hzero
    · right
      apply hzero
  · rintro (rfl | rfl) <;> decide

/-! ### Faults -/

namespace Operator

/-- The value of an operation on the values of its operands. -/
def evaluate (op : Operator) (left right : Except Fault Float) : Except Fault Float := do
  let a ← left
  let b ← right
  op.apply a b

/-- The only fault of an operation is a division by zero, for a divisor equal to zero. -/
theorem apply_eq_error_iff {op : Operator} {a b : Float} {fault : Fault} :
  op.apply a b = .error fault ↔ fault = .divisionByZero ∧ op = divide ∧ IsZero b
  := by
  rw [← beq_zero_iff]
  cases op <;> simp only [apply, reduceCtorEq, false_and, and_false]
  split
  · next hzero => simp [hzero, eq_comm]
  · next hzero => simp [hzero]

/-- An operation fails where its evaluation stops: in the left operand, in the right one if
the left one has a value, or in a division by zero. -/
theorem evaluate_eq_error_iff {op : Operator} {left right : Except Fault Float}
    {fault : Fault} :
  op.evaluate left right = .error fault
    ↔ left = .error fault
      ∨ (∃ a, left = .ok a)
        ∧ (right = .error fault
          ∨ fault = .divisionByZero ∧ op = divide ∧ ∃ b, right = .ok b ∧ IsZero b)
  := by
  cases left with
  | error other => simp [evaluate, bind, Except.bind]
  | ok a =>
    cases right with
    | error other => simp [evaluate, bind, Except.bind]
    | ok b => simp [evaluate, bind, Except.bind, apply_eq_error_iff]

end Operator

end DeskCalculator
