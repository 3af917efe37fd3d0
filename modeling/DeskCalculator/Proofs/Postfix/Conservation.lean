import DeskCalculator.Proofs.Postfix.Repair
import DeskCalculator.Proofs.Token.Content
import Mathlib.Data.List.Count

/-!
# What the conversion keeps

The conversion keeps the numbers of the tokens in their order (`numbers_ofTokens`) and the
operators up to their order (`operators_ofTokens_perm`).  It drops all closing parentheses
(`closing_not_mem_ofTokens`), and the opening ones that are closed (`count_opening_ofTokens`).
The others come from the stack at the end, on which no number waits
(`numbers_dropWhile_ofTokens`).
-/

namespace DeskCalculator.Postfix

open Token

variable {stack : List Pending} {token : Token} {tokens : List Token}

/-- No number waits on the stack. -/
@[simp]
theorem numbers_map_token (stack : List Pending) :
  numbers (stack.map Pending.token) = []
  := by
  induction stack with
  | nil => rfl
  | cons entry below ih => cases entry <;> apply ih

/-- A step writes its token if that is a number, and operators. -/
theorem step_output (stack : List Pending) (token : Token) :
  ∃ ops : List Operator, (step stack token).1 = (numbers [token]).map .number ++ ops.map .operator
  := by
  cases token with
  | number x => exact ⟨[], rfl⟩
  | operator op =>
    obtain ⟨popped, -, houtput, -⟩ := popTighter_spec op stack
    use popped
    rw [step_operator, houtput]
    rfl
  | opening => exact ⟨[], rfl⟩
  | closing =>
    obtain ⟨popped, houtput, -⟩ := popGroup_spec stack
    use popped
    rw [step, houtput]
    rfl

theorem numbers_step (stack : List Pending) (token : Token) :
  numbers (step stack token).1 = numbers [token]
  := by
  obtain ⟨ops, houtput⟩ := step_output stack token
  rw [houtput, numbers_append, numbers_map_number, numbers_map_operator, List.append_nil]

theorem numbers_convert (stack : List Pending) (tokens : List Token) :
  numbers (convert stack tokens) = numbers tokens
  := by
  induction tokens generalizing stack with
  | nil => apply numbers_map_token
  | cons token rest ih =>
    rw [convert_cons, numbers_append, numbers_step, ih, ← numbers_append, List.singleton_append]

/-- The operators on a stack. -/
def pendingOperators (stack : List Pending) : List Operator :=
  operators (stack.map Pending.token)

theorem pendingOperators_map_operator_append (ops : List Operator) (below : List Pending) :
  pendingOperators (ops.map .operator ++ below) = ops ++ pendingOperators below
  := by
  induction ops with
  | nil => rfl
  | cons op ops ih => exact congrArg (op :: ·) ih

/-- A step sends operators from the stack to the output, and puts its own on the stack. -/
theorem operators_step_perm (stack : List Pending) (token : Token) :
  (operators (step stack token).1 ++ pendingOperators (step stack token).2).Perm
    (pendingOperators stack ++ operators [token])
  := by
  cases token with
  | number x =>
    show (pendingOperators stack).Perm (pendingOperators stack ++ [])
    rw [List.append_nil]
  | operator op =>
    obtain ⟨popped, hstack, houtput, -⟩ := popTighter_spec op stack
    have hpending := congrArg pendingOperators hstack
    rw [pendingOperators_map_operator_append] at hpending
    rw [step_operator, houtput, hpending, operators_map_operator, List.append_assoc]
    apply List.Perm.append_left
    apply (List.perm_append_singleton op _).symm
  | opening =>
    show (pendingOperators stack).Perm (pendingOperators stack ++ [])
    rw [List.append_nil]
  | closing =>
    obtain ⟨popped, houtput, hstack⟩ := popGroup_spec stack
    have hpending : pendingOperators stack = popped ++ pendingOperators (popGroup stack).2 := by
      obtain hstack | ⟨hstack, hbelow⟩ := hstack
      · have hpending := congrArg pendingOperators hstack
        rwa [pendingOperators_map_operator_append] at hpending
      · have hpending := congrArg pendingOperators hstack
        rw [← List.append_nil (popped.map Pending.operator),
          pendingOperators_map_operator_append] at hpending
        rw [hpending, hbelow]
    show (operators (popGroup stack).1 ++ pendingOperators (popGroup stack).2).Perm
      (pendingOperators stack ++ [])
    rw [houtput, hpending, operators_map_operator, List.append_nil]

theorem operators_convert_perm (stack : List Pending) (tokens : List Token) :
  (operators (convert stack tokens)).Perm (pendingOperators stack ++ operators tokens)
  := by
  induction tokens generalizing stack with
  | nil =>
    rw [operators_nil, List.append_nil]
    rfl
  | cons token rest ih =>
    have hstep := (operators_step_perm stack token).append_right (operators rest)
    rw [convert_cons, operators_append, ← List.singleton_append, operators_append,
      ← List.append_assoc]
    apply List.Perm.trans _ hstep
    rw [List.append_assoc]
    apply (ih _).append_left

theorem closing_not_mem_convert (stack : List Pending) (tokens : List Token) :
  .closing ∉ convert stack tokens
  := by
  induction tokens generalizing stack with
  | nil =>
    intro hmem
    obtain ⟨entry, -, hentry⟩ := List.mem_map.mp hmem
    cases entry <;> cases hentry
  | cons token rest ih =>
    obtain ⟨ops, houtput⟩ := step_output stack token
    rw [convert_cons, List.mem_append, not_or, houtput]
    exact ⟨by simp, ih _⟩

/-! ### Unclosed parentheses

The output of a run has no opening parenthesis, so all those of a conversion are on the stack at
the end, together with pending operators. -/

theorem token_injective :
  Function.Injective Pending.token
  := by
  intro entry entry' h
  cases entry <;> cases entry' <;> cases h <;> rfl

theorem count_opening_map_token (stack : List Pending) :
  (stack.map Pending.token).count .opening = openings stack
  := List.count_map_of_injective stack Pending.token token_injective .opening

theorem count_opening_convert (stack : List Pending) (tokens : List Token) :
  (convert stack tokens).count .opening = unclosed (openings stack) tokens
  := by
  rw [convert_eq_run, List.count_append, List.count_eq_zero.mpr (opening_not_mem_run stack tokens),
    count_opening_map_token, openings_run, Nat.zero_add]

/-- From the first opening parenthesis on, a conversion is part of the stack at the end. -/
theorem numbers_dropWhile_convert (stack : List Pending) (tokens : List Token) :
  numbers ((convert stack tokens).dropWhile fun token => token ≠ .opening) = []
  := by
  have houtput : ∀ token ∈ (run stack tokens).1, decide (token ≠ .opening) := by
    intro token htoken
    apply decide_eq_true
    rintro rfl
    apply opening_not_mem_run stack tokens htoken
  rw [convert_eq_run, List.dropWhile_append_of_pos houtput, List.dropWhile_map]
  apply numbers_map_token

/-! ### The whole conversion -/

/-- The conversion keeps the numbers in their order. -/
theorem numbers_ofTokens (tokens : List Token) :
  numbers (ofTokens tokens) = numbers tokens
  := numbers_convert [] tokens

/-- The conversion permutes the operators. -/
theorem operators_ofTokens_perm (tokens : List Token) :
  (operators (ofTokens tokens)).Perm (operators tokens)
  := operators_convert_perm [] tokens

/-- The conversion drops all closing parentheses. -/
theorem closing_not_mem_ofTokens (tokens : List Token) :
  .closing ∉ ofTokens tokens
  := closing_not_mem_convert [] tokens

/-- The conversion keeps the opening parentheses that are not closed. -/
theorem count_opening_ofTokens (tokens : List Token) :
  (ofTokens tokens).count .opening = unclosed 0 tokens
  := count_opening_convert [] tokens

/-- No number comes behind an opening parenthesis in the output. -/
theorem numbers_dropWhile_ofTokens (tokens : List Token) :
  numbers ((ofTokens tokens).dropWhile fun token => token ≠ .opening) = []
  := numbers_dropWhile_convert [] tokens

/-- The conversion neither loses nor invents tokens, except for parentheses: it keeps the numbers
in their order, permutes the operators, drops all closing parentheses and all opening ones but the
unclosed ones.  No number comes behind the first opening parenthesis that is left. -/
theorem content_ofTokens (tokens : List Token) :
  numbers (ofTokens tokens) = numbers tokens
    ∧ (operators (ofTokens tokens)).Perm (operators tokens)
    ∧ .closing ∉ ofTokens tokens
    ∧ (ofTokens tokens).count .opening = unclosed 0 tokens
    ∧ numbers ((ofTokens tokens).dropWhile fun token => token ≠ .opening) = []
  := by
  refine ⟨numbers_ofTokens tokens, operators_ofTokens_perm tokens, ?_, ?_, ?_⟩
  · apply closing_not_mem_ofTokens
  · apply count_opening_ofTokens
  · apply numbers_dropWhile_ofTokens

/-- Unclosed parentheses come behind all numbers, among the operators that still wait. -/
example : ofTokens [.number 1, .closing, .operator .add, .opening, .number 2, .operator .multiply,
    .opening, .number 3]
    = [.number 1, .number 2, .number 3, .opening, .operator .multiply, .opening, .operator .add]
  := rfl

end DeskCalculator.Postfix
