import DeskCalculator.Operator

/-!
# Precedence

The operators fall into two classes, the additive and the multiplicative ones, and the
precedence of an operator tells its class.
-/

namespace DeskCalculator.Operator

/-- Whether an operator is an addition or a subtraction. -/
def isAdditive : Operator → Bool
  | add => true
  | subtract => true
  | multiply => false
  | divide => false

/-- Whether an operator is a multiplication or a division. -/
def isMultiplicative : Operator → Bool
  | add => false
  | subtract => false
  | multiply => true
  | divide => true

theorem precedence_eq_one_iff {op : Operator} :
  op.precedence = 1 ↔ op.isAdditive
  := by
  cases op <;> decide

theorem precedence_eq_two_iff {op : Operator} :
  op.precedence = 2 ↔ op.isMultiplicative
  := by
  cases op <;> decide

/-- An operator that is not additive is multiplicative. -/
theorem isMultiplicative_of_not_isAdditive {op : Operator} (h : ¬ op.isAdditive) :
  op.isMultiplicative
  := by
  cases op
  · exact absurd rfl h
  · exact absurd rfl h
  · rfl
  · rfl

/-- No operator binds less tightly than an additive one. -/
theorem precedence_le_of_isAdditive {op : Operator} (h : op.isAdditive) (o : Operator) :
  op.precedence ≤ o.precedence
  := by
  rw [precedence_eq_one_iff.mpr h]
  cases o <;> decide

/-- An additive operator binds less tightly than a multiplicative one. -/
theorem precedence_lt_of_isAdditive {op o : Operator} (h : op.isAdditive)
    (ho : o.isMultiplicative) :
  op.precedence < o.precedence
  := by
  rw [precedence_eq_one_iff.mpr h, precedence_eq_two_iff.mpr ho]
  decide

/-- Multiplicative operators bind equally tightly. -/
theorem precedence_eq_of_isMultiplicative {op o : Operator} (h : op.isMultiplicative)
    (ho : o.isMultiplicative) :
  op.precedence = o.precedence
  := by
  rw [precedence_eq_two_iff.mpr h, precedence_eq_two_iff.mpr ho]

end DeskCalculator.Operator
