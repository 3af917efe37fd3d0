import DeskCalculator.Token

/-!
# Nesting

The depth of parentheses along a list of tokens.  An opening parenthesis leads one deeper
and a closing one back, except that a closing parenthesis at depth zero is unopened and
leaves the depth at zero.  What is still open at the end is unclosed.  Tokens are balanced
if they have no unopened and no unclosed parenthesis.

The outer operators are those at depth zero, outside all parentheses.
-/

namespace DeskCalculator.Token

/-- The depth after a token. -/
def depthAfter (depth : Nat) : Token → Nat
  | number _ => depth
  | operator _ => depth
  | opening => depth + 1
  | closing => depth - 1

/-- The number of closing parentheses met at depth zero, from a depth on. -/
def unopened (depth : Nat) : List Token → Nat
  | [] => 0
  | token :: rest =>
    (if depth = 0 ∧ token = closing then 1 else 0) + unopened (depthAfter depth token) rest

/-- The depth at the end, from a depth on. -/
def unclosed (depth : Nat) : List Token → Nat
  | [] => depth
  | token :: rest => unclosed (depthAfter depth token) rest

/-- Tokens without an unopened and without an unclosed parenthesis. -/
structure Balanced (tokens : List Token) : Prop where
  unopened_eq_zero : unopened 0 tokens = 0
  unclosed_eq_zero : unclosed 0 tokens = 0

/-- The operator that a token is, if the token is at depth zero. -/
def outerOperator? : Nat → Token → Option Operator
  | 0, operator op => some op
  | _, _ => none

/-- The operators at depth zero, from a depth on. -/
def outerOperators (depth : Nat) : List Token → List Operator
  | [] => []
  | token :: rest =>
    (outerOperator? depth token).toList ++ outerOperators (depthAfter depth token) rest

variable {depth : Nat} {tokens : List Token}

/-! ### Concatenation -/

theorem unopened_append (depth : Nat) (before after : List Token) :
  unopened depth (before ++ after)
    = unopened depth before + unopened (unclosed depth before) after
  := by
  induction before generalizing depth with
  | nil => simp [unopened, unclosed]
  | cons token rest ih =>
    rw [List.cons_append, unopened, ih, unopened, unclosed]
    omega

theorem unclosed_append (depth : Nat) (before after : List Token) :
  unclosed depth (before ++ after) = unclosed (unclosed depth before) after
  := by
  induction before generalizing depth with
  | nil => rfl
  | cons token rest ih =>
    rw [List.cons_append, unclosed, ih, unclosed]

theorem outerOperators_append (depth : Nat) (before after : List Token) :
  outerOperators depth (before ++ after)
    = outerOperators depth before ++ outerOperators (unclosed depth before) after
  := by
  induction before generalizing depth with
  | nil => rfl
  | cons token rest ih =>
    rw [List.cons_append, outerOperators, ih, outerOperators, unclosed, List.append_assoc]

/-- The outer operators of tokens split at an outer operator. -/
theorem outerOperators_split {left : List Token} (h : unclosed 0 left = 0) (op : Operator)
    (right : List Token) :
  outerOperators 0 (left ++ operator op :: right)
    = outerOperators 0 left ++ op :: outerOperators 0 right
  := by
  rw [outerOperators_append, h]
  rfl

/-! ### Tokens read at a greater depth

Further parentheses opened before the tokens are closed by what is unopened otherwise, and
those that are not closed in this way stay open. -/

theorem depthAfter_add {token : Token} (h : ¬ (depth = 0 ∧ token = closing)) (n : Nat) :
  depthAfter (depth + n) token = depthAfter depth token + n
  := by
  cases token with
  | number => rfl
  | operator => rfl
  | opening => simp only [depthAfter]; omega
  | closing => simp only [depthAfter, and_true] at h ⊢; omega

theorem unopened_add (depth n : Nat) (tokens : List Token) :
  unopened (depth + n) tokens = unopened depth tokens - n
  := by
  induction tokens generalizing depth n with
  | nil => simp [unopened]
  | cons token rest ih =>
    by_cases htoken : depth = 0 ∧ token = closing
    · obtain ⟨rfl, rfl⟩ := htoken
      cases n with
      | zero => rfl
      | succ n =>
        have hrest := ih 0 n
        simp only [unopened, depthAfter, Nat.zero_add, Nat.add_sub_cancel] at hrest ⊢
        rw [hrest]
        simp
        omega
    · have hraised : ¬ (depth + n = 0 ∧ token = closing) := by
        rintro ⟨hdepth, rfl⟩
        apply htoken ⟨by omega, rfl⟩
      rw [unopened, unopened, if_neg htoken, if_neg hraised, depthAfter_add htoken, ih]
      omega

theorem unclosed_add (depth n : Nat) (tokens : List Token) :
  unclosed (depth + n) tokens = unclosed depth tokens + (n - unopened depth tokens)
  := by
  induction tokens generalizing depth n with
  | nil => rfl
  | cons token rest ih =>
    rw [unclosed, unclosed, unopened]
    by_cases htoken : depth = 0 ∧ token = closing
    · obtain ⟨rfl, rfl⟩ := htoken
      have hrest := ih 0 (n - 1)
      rw [Nat.zero_add] at hrest
      simp only [depthAfter, Nat.zero_add, hrest]
      simp
      omega
    · rw [if_neg htoken, depthAfter_add htoken, ih]
      omega

/-- Nothing is unopened exactly if the first token does not close a parenthesis at depth
zero and nothing is unopened after it. -/
theorem unopened_cons_eq_zero {token : Token} {rest : List Token} :
  unopened depth (token :: rest) = 0
    ↔ ¬ (depth = 0 ∧ token = closing) ∧ unopened (depthAfter depth token) rest = 0
  := by
  rw [unopened, Nat.add_eq_zero_iff]
  simp

/-- Within further parentheses there is no outer operator. -/
theorem outerOperators_succ (h : unopened depth tokens = 0) :
  outerOperators (depth + 1) tokens = []
  := by
  induction tokens generalizing depth with
  | nil => rfl
  | cons token rest ih =>
    obtain ⟨htoken, hrest⟩ := unopened_cons_eq_zero.mp h
    rw [outerOperators, depthAfter_add htoken, ih hrest, outerOperator?]
    · rfl
    · simp

/-! ### Balanced tokens -/

variable {inner before after : List Token}

/-- Balanced tokens have nothing unopened from any depth. -/
theorem Balanced.unopened_eq (h : Balanced inner) (depth : Nat) :
  unopened depth inner = 0
  := by
  have hdepth := unopened_add 0 depth inner
  simpa only [h.unopened_eq_zero, Nat.zero_add, Nat.zero_sub] using hdepth

/-- Balanced tokens end at the depth they start from. -/
theorem Balanced.unclosed_eq (h : Balanced inner) (depth : Nat) :
  unclosed depth inner = depth
  := by
  have hdepth := unclosed_add 0 depth inner
  simpa only [h.unopened_eq_zero, h.unclosed_eq_zero, Nat.zero_add, Nat.sub_zero] using hdepth

/-- Behind tokens that end at depth zero, balanced tokens are balanced. -/
theorem balanced_append_iff (h : unclosed 0 before = 0) :
  Balanced (before ++ after) ↔ unopened 0 before = 0 ∧ Balanced after
  := by
  have hopened := unopened_append 0 before after
  have hclosed := unclosed_append 0 before after
  rw [h] at hopened hclosed
  constructor
  · rintro ⟨hopens, hcloses⟩
    refine ⟨by omega, by omega, by omega⟩
  · rintro ⟨hbefore, hafter⟩
    constructor
    · rw [hopened, hbefore, hafter.unopened_eq_zero]
    · rw [hclosed, hafter.unclosed_eq_zero]

/-- The two sides of an outer operator are balanced if the whole is. -/
theorem Balanced.sides {left right : List Token} {op : Operator}
    (h : Balanced (left ++ operator op :: right)) (hclosed : unclosed 0 left = 0) :
  Balanced left ∧ Balanced right
  := by
  obtain ⟨hopened, hrest⟩ := (balanced_append_iff hclosed).mp h
  obtain ⟨-, hright⟩ := (@balanced_append_iff [operator op] right rfl).mp hrest
  exact ⟨⟨hopened, hclosed⟩, hright⟩

theorem Balanced.append (hbefore : Balanced before) (hafter : Balanced after) :
  Balanced (before ++ after)
  := (balanced_append_iff hbefore.unclosed_eq_zero).mpr ⟨hbefore.unopened_eq_zero, hafter⟩

theorem balanced_number (x : Float) :
  Balanced [number x]
  := ⟨rfl, rfl⟩

theorem balanced_operator (op : Operator) :
  Balanced [operator op]
  := ⟨rfl, rfl⟩

/-- Balanced tokens between parentheses are balanced. -/
theorem Balanced.group (h : Balanced inner) :
  Balanced (opening :: inner ++ [closing])
  := by
  constructor
  · rw [List.cons_append, unopened, unopened_append, depthAfter, h.unopened_eq, h.unclosed_eq]
    rfl
  · rw [List.cons_append, unclosed, unclosed_append, depthAfter, h.unclosed_eq]
    rfl

/-- A group has no outer operators. -/
theorem Balanced.outerOperators_group (h : Balanced inner) :
  outerOperators 0 (opening :: inner ++ [closing]) = []
  := by
  have hinner := outerOperators_succ h.unopened_eq_zero
  rw [List.cons_append, outerOperators, outerOperators_append, depthAfter, hinner, h.unclosed_eq]
  rfl

end DeskCalculator.Token
