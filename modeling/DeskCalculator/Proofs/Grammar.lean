import DeskCalculator.Proofs.Postfix.Parts
import DeskCalculator.Proofs.Postfix.Reduction
import DeskCalculator.Proofs.Precedence

/-!
# The grammar of expressions

An expression is a sum.

* A sum is a product, or a sum followed by an additive operator and a product.
* A product is a factor, or a product followed by a multiplicative operator and a factor.
* A factor is a literal, or a sum between parentheses.

The value of a derivation is the value of its tree: that of the left operand, that of the
right operand, and then that of the operation, up to the first division by zero.  The
conversion and the reduction of the tokens of a derivation compute it
(`Derivation.reduce_ofTokens`).
-/

namespace DeskCalculator.Grammar

open Postfix Token

/-- The categories of the grammar. -/
inductive Category where
  | sum
  | product
  | factor

/-- The derivations of a category, with literals from `α`. -/
inductive Derivation (α : Type) : Category → Type where
  | literal (a : α) : Derivation α .factor
  | group (inner : Derivation α .sum) : Derivation α .factor
  | ofFactor (d : Derivation α .factor) : Derivation α .product
  | multiplicative (left : Derivation α .product) (op : Operator) (h : op.isMultiplicative)
      (right : Derivation α .factor) : Derivation α .product
  | ofProduct (d : Derivation α .product) : Derivation α .sum
  | additive (left : Derivation α .sum) (op : Operator) (h : op.isAdditive)
      (right : Derivation α .product) : Derivation α .sum

/-- The terminal symbols of the grammar, with literals from `α`. -/
inductive Terminal (α : Type) where
  | literal (a : α)
  | operator (op : Operator)
  | opening
  | closing

/-- The token of a terminal symbol, if `leaf` gives the values of literals. -/
def Terminal.token {α : Type} (leaf : α → Float) : Terminal α → Token
  | literal a => .number (leaf a)
  | operator op => .operator op
  | opening => .opening
  | closing => .closing

namespace Derivation

variable {α : Type} {category : Category}

/-- The terminal symbols of a derivation from left to right. -/
def sentence {category : Category} : Derivation α category → List (Terminal α)
  | literal a => [.literal a]
  | group inner => .opening :: inner.sentence ++ [.closing]
  | ofFactor d => d.sentence
  | multiplicative left op _ right => left.sentence ++ .operator op :: right.sentence
  | ofProduct d => d.sentence
  | additive left op _ right => left.sentence ++ .operator op :: right.sentence

/-- The value of a derivation, if `leaf` gives the values of literals. -/
def value {category : Category} (leaf : α → Float) :
    Derivation α category → Except Fault Float
  | literal a => .ok (leaf a)
  | group inner => inner.value leaf
  | ofFactor d => d.value leaf
  | multiplicative left op _ right => op.evaluate (left.value leaf) (right.value leaf)
  | ofProduct d => d.value leaf
  | additive left op _ right => op.evaluate (left.value leaf) (right.value leaf)

/-- The evaluation of a derivation meets a divisor equal to zero.  A right operand is
evaluated only if the left one has a value. -/
def MeetsZero {category : Category} (leaf : α → Float) : Derivation α category → Prop
  | literal _ => False
  | group inner => inner.MeetsZero leaf
  | ofFactor d => d.MeetsZero leaf
  | multiplicative left op _ right =>
    left.MeetsZero leaf
      ∨ (∃ a, left.value leaf = .ok a)
        ∧ (right.MeetsZero leaf ∨ op = .divide ∧ ∃ b, right.value leaf = .ok b ∧ IsZero b)
  | ofProduct d => d.MeetsZero leaf
  | additive left _ _ right =>
    left.MeetsZero leaf ∨ (∃ a, left.value leaf = .ok a) ∧ right.MeetsZero leaf

variable {leaf : α → Float}

/-- The only fault of a derivation is a division by zero, and it arises exactly if the
evaluation meets a divisor equal to zero. -/
theorem value_eq_error_iff (d : Derivation α category) (fault : Fault) :
  d.value leaf = .error fault ↔ fault = .divisionByZero ∧ d.MeetsZero leaf
  := by
  induction d with
  | literal a => simp [value, MeetsZero]
  | group inner ih => apply ih
  | ofFactor d ih => apply ih
  | multiplicative left op h right ihleft ihright =>
    rw [value, Operator.evaluate_eq_error_iff, ihleft, ihright, MeetsZero, ← and_or_left,
      and_left_comm, ← and_or_left]
  | ofProduct d ih => apply ih
  | additive left op h right ihleft ihright =>
    have hop : op ≠ .divide := by
      rintro rfl
      cases h
    simp only [value, Operator.evaluate_eq_error_iff, ihleft, ihright, MeetsZero, hop,
      false_and, and_false, or_false]
    rw [and_left_comm, ← and_or_left]

/-! ### The tokens of a derivation -/

/-- The tokens of a derivation, if `leaf` gives the values of literals. -/
def tokens (leaf : α → Float) (d : Derivation α category) : List Token :=
  d.sentence.map (Terminal.token leaf)

theorem tokens_group (inner : Derivation α .sum) :
  (group inner).tokens leaf = .opening :: inner.tokens leaf ++ [.closing]
  := by
  simp [tokens, sentence, Terminal.token]

theorem tokens_multiplicative (left : Derivation α .product) (op : Operator)
    (h : op.isMultiplicative) (right : Derivation α .factor) :
  (multiplicative left op h right).tokens leaf
    = left.tokens leaf ++ .operator op :: right.tokens leaf
  := by
  simp [tokens, sentence, Terminal.token]

theorem tokens_additive (left : Derivation α .sum) (op : Operator) (h : op.isAdditive)
    (right : Derivation α .product) :
  (additive left op h right).tokens leaf
    = left.tokens leaf ++ .operator op :: right.tokens leaf
  := by
  simp [tokens, sentence, Terminal.token]

/-- The tokens of a derivation are balanced. -/
theorem balanced_tokens (leaf : α → Float) (d : Derivation α category) :
  Balanced (d.tokens leaf)
  := by
  induction d with
  | literal a => apply balanced_number
  | group inner ih =>
    rw [tokens_group]
    apply ih.group
  | ofFactor d ih => apply ih
  | multiplicative left op h right ihleft ihright =>
    rw [tokens_multiplicative]
    apply ihleft.append ((balanced_operator op).append ihright)
  | ofProduct d ih => apply ih
  | additive left op h right ihleft ihright =>
    rw [tokens_additive]
    apply ihleft.append ((balanced_operator op).append ihright)

end Derivation

/-- Whether the grammar allows an operator outside all parentheses of a category. -/
def Category.Allows : Category → Operator → Prop
  | sum, _ => True
  | product, op => op.isMultiplicative
  | factor, _ => False

namespace Derivation

variable {α : Type} {category : Category} {leaf : α → Float}

/-- The outer operators of a derivation are those that its category allows. -/
theorem allows_of_mem_outerOperators (d : Derivation α category) {op : Operator}
    (hop : op ∈ outerOperators 0 (d.tokens leaf)) :
  category.Allows op
  := by
  induction d with
  | literal a => cases hop
  | group inner ih =>
    rw [tokens_group, (inner.balanced_tokens leaf).outerOperators_group] at hop
    cases hop
  | ofFactor d ih => cases ih hop
  | multiplicative left o h right ihleft ihright =>
    rw [tokens_multiplicative, outerOperators_split (left.balanced_tokens leaf).unclosed_eq_zero,
      List.mem_append, List.mem_cons] at hop
    obtain hop | rfl | hop := hop
    · apply ihleft hop
    · apply h
    · cases ihright hop
  | ofProduct d ih => trivial
  | additive left o h right ihleft ihright => trivial

/-- The postfix order of the tokens of a derivation is reduced to its value. -/
theorem reduce_ofTokens (d : Derivation α category) (operands : List Float) :
  reduce operands (ofTokens (d.tokens leaf)) = (d.value leaf).map (· :: operands)
  := by
  induction d generalizing operands with
  | literal a => rfl
  | group inner ih =>
    rw [tokens_group, ofTokens_group (inner.balanced_tokens leaf), ih, value]
  | ofFactor d ih => apply ih
  | multiplicative left op h right ihleft ihright =>
    have horder := ofTokens_operator (left.balanced_tokens leaf).unclosed_eq_zero
      (right.balanced_tokens leaf).unopened_eq_zero
      (fun o ho => Nat.le_of_eq (Operator.precedence_eq_of_isMultiplicative h
        (left.allows_of_mem_outerOperators ho)))
      (fun o ho => (right.allows_of_mem_outerOperators ho).elim)
    rw [tokens_multiplicative, horder, value]
    apply reduce_operation ihleft ihright
  | ofProduct d ih => apply ih
  | additive left op h right ihleft ihright =>
    have horder := ofTokens_operator (left.balanced_tokens leaf).unclosed_eq_zero
      (right.balanced_tokens leaf).unopened_eq_zero
      (fun o _ => Operator.precedence_le_of_isAdditive h o)
      (fun o ho => Operator.precedence_lt_of_isAdditive h
        (right.allows_of_mem_outerOperators ho))
    rw [tokens_additive, horder, value]
    apply reduce_operation ihleft ihright

/-- The tokens of a derivation have its value. -/
theorem value_ofTokens (d : Derivation α category) :
  Postfix.value (ofTokens (d.tokens leaf)) = d.value leaf
  := by
  rw [Postfix.value, reduce_ofTokens]
  cases d.value leaf <;> rfl

end Derivation

end DeskCalculator.Grammar
