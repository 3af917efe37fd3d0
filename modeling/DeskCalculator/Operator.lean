/-!
# Operators

The four binary operators of an expression.  Each is written with one character, and
the multiplicative ones bind tighter than the additive ones.
-/

namespace DeskCalculator

/-- A binary arithmetic operator. -/
inductive Operator where
  | add
  | subtract
  | multiply
  | divide
deriving DecidableEq, Repr

namespace Operator

/-- The character that writes an operator. -/
def symbol : Operator → Char
  | add => '+'
  | subtract => '-'
  | multiply => '*'
  | divide => '/'

/-- The operator written with a character, if there is one. -/
def ofSymbol? : Char → Option Operator
  | '+' => some add
  | '-' => some subtract
  | '*' => some multiply
  | '/' => some divide
  | _ => none

/-- How tightly an operator binds: `1` for the additive, `2` for the multiplicative ones. -/
def precedence : Operator → Nat
  | add => 1
  | subtract => 1
  | multiply => 2
  | divide => 2

@[simp]
theorem ofSymbol?_symbol (op : Operator) :
  ofSymbol? op.symbol = some op
  := by
  cases op <;> rfl

theorem symbol_of_ofSymbol? {c : Char} {op : Operator} (h : ofSymbol? c = some op) :
  op.symbol = c
  := by
  unfold ofSymbol? at h
  split at h <;> cases h <;> rfl

end Operator

end DeskCalculator
