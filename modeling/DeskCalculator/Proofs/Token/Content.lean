import DeskCalculator.Token

/-!
# The content of tokens

The numbers and the operators among tokens, each in their order.
-/

namespace DeskCalculator.Token

/-- The number that a token is, if it is one. -/
def number? : Token → Option Float
  | number x => some x
  | _ => none

/-- The operator that a token is, if it is one. -/
def operator? : Token → Option Operator
  | operator op => some op
  | _ => none

/-- The numbers among tokens. -/
def numbers (tokens : List Token) : List Float :=
  tokens.filterMap number?

/-- The operators among tokens. -/
def operators (tokens : List Token) : List Operator :=
  tokens.filterMap operator?

@[simp]
theorem numbers_nil :
  numbers [] = []
  := rfl

@[simp]
theorem operators_nil :
  operators [] = []
  := rfl

@[simp]
theorem numbers_number_cons (x : Float) (rest : List Token) :
  numbers (number x :: rest) = x :: numbers rest
  := rfl

@[simp]
theorem numbers_operator_cons (op : Operator) (rest : List Token) :
  numbers (operator op :: rest) = numbers rest
  := rfl

@[simp]
theorem numbers_opening_cons (rest : List Token) :
  numbers (opening :: rest) = numbers rest
  := rfl

@[simp]
theorem numbers_closing_cons (rest : List Token) :
  numbers (closing :: rest) = numbers rest
  := rfl

@[simp]
theorem operators_number_cons (x : Float) (rest : List Token) :
  operators (number x :: rest) = operators rest
  := rfl

@[simp]
theorem operators_operator_cons (op : Operator) (rest : List Token) :
  operators (operator op :: rest) = op :: operators rest
  := rfl

@[simp]
theorem operators_opening_cons (rest : List Token) :
  operators (opening :: rest) = operators rest
  := rfl

@[simp]
theorem operators_closing_cons (rest : List Token) :
  operators (closing :: rest) = operators rest
  := rfl

@[simp]
theorem numbers_append (before after : List Token) :
  numbers (before ++ after) = numbers before ++ numbers after
  := List.filterMap_append

@[simp]
theorem operators_append (before after : List Token) :
  operators (before ++ after) = operators before ++ operators after
  := List.filterMap_append

@[simp]
theorem numbers_map_number (xs : List Float) :
  numbers (xs.map .number) = xs
  := by
  induction xs with
  | nil => rfl
  | cons x xs ih => rw [List.map_cons, numbers_number_cons, ih]

@[simp]
theorem numbers_map_operator (ops : List Operator) :
  numbers (ops.map .operator) = []
  := by
  induction ops with
  | nil => rfl
  | cons op ops ih => rw [List.map_cons, numbers_operator_cons, ih]

@[simp]
theorem operators_map_operator (ops : List Operator) :
  operators (ops.map .operator) = ops
  := by
  induction ops with
  | nil => rfl
  | cons op ops ih => rw [List.map_cons, operators_operator_cons, ih]

theorem mem_operators_iff {op : Operator} {tokens : List Token} :
  op ∈ operators tokens ↔ .operator op ∈ tokens
  := by
  rw [operators, List.mem_filterMap]
  constructor
  · rintro ⟨token, htoken, hop⟩
    cases token <;> cases hop
    apply htoken
  · intro h
    exact ⟨_, h, rfl⟩

/-- Nothing but numbers, operators and parentheses is among tokens. -/
theorem eq_nil_iff_numbers_operators {tokens : List Token} :
  tokens = []
    ↔ numbers tokens = [] ∧ operators tokens = [] ∧ .opening ∉ tokens ∧ .closing ∉ tokens
  := by
  cases tokens with
  | nil => simp
  | cons token rest => cases token <;> simp

end DeskCalculator.Token
