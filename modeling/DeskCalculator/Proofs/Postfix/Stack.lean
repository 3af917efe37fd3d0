import DeskCalculator.Proofs.Postfix.Run

/-!
# The stack of the conversion

An operator goes onto the stack only when no operator on top of it binds at least as tightly.  So
the operators on the stack without an opening parenthesis between them bind tighter and tighter
from the bottom to the top: the stack is ascending, and each step of the conversion keeps it so
(`Ascending.step`).  There are two precedences only, hence at most two operators above each opening
parenthesis and at most two below all of them.  As the opening parentheses are as many as the
depth, the height of the stack is bounded by the depth alone (`stack_ascends_within_depth`).
-/

namespace DeskCalculator

/-- Every operator binds with precedence one or two. -/
theorem Operator.precedence_bounds (op : Operator) :
  0 < op.precedence ∧ op.precedence ≤ 2
  := by
  cases op <;> decide

namespace Postfix

open Token

/-- The precedence of the operator on top of a stack, and `0` if there is none. -/
def topPrecedence : List Pending → Nat
  | .operator op :: _ => op.precedence
  | _ => 0

/-- A stack on which every operator that lies on an operator binds tighter than that one. -/
inductive Ascending : List Pending → Prop where
  | nil : Ascending []
  | opening {below : List Pending} (hbelow : Ascending below) : Ascending (.opening :: below)
  | operator {op : Operator} {below : List Pending} (htop : topPrecedence below < op.precedence)
      (hbelow : Ascending below) : Ascending (.operator op :: below)

variable {stack below : List Pending} {ops : List Operator}

@[simp]
theorem topPrecedence_operator (op : Operator) (below : List Pending) :
  topPrecedence (.operator op :: below) = op.precedence
  := rfl

@[simp]
theorem topPrecedence_opening (below : List Pending) :
  topPrecedence (.opening :: below) = 0
  := rfl

theorem topPrecedence_le_two (stack : List Pending) :
  topPrecedence stack ≤ 2
  := by
  cases stack with
  | nil => apply Nat.zero_le
  | cons entry below =>
    cases entry with
    | operator op => exact op.precedence_bounds.2
    | opening => apply Nat.zero_le

/-- The operators that an operator leaves on top of the stack bind less tightly. -/
theorem topPrecedence_popTighter_lt (op : Operator) (stack : List Pending) :
  topPrecedence (popTighter op stack).2 < op.precedence
  := by
  induction stack with
  | nil => exact op.precedence_bounds.1
  | cons entry below ih =>
    cases entry with
    | opening => exact op.precedence_bounds.1
    | operator top =>
      rw [popTighter]
      split
      · next htop => apply htop
      · apply ih

namespace Ascending

/-! ### Steps and runs -/

/-- The lower part of an ascending stack is ascending. -/
theorem of_suffix (h : Ascending stack) (hsuffix : below <:+ stack) :
  Ascending below
  := by
  induction h with
  | nil =>
    obtain rfl := List.suffix_nil.mp hsuffix
    apply Ascending.nil
  | opening hbelow ih =>
    obtain rfl | hlower := List.suffix_cons_iff.mp hsuffix
    · apply Ascending.opening hbelow
    · apply ih hlower
  | operator htop hbelow ih =>
    obtain rfl | hlower := List.suffix_cons_iff.mp hsuffix
    · apply Ascending.operator htop hbelow
    · apply ih hlower

/-- An ascending stack is ascending after a step. -/
theorem step (h : Ascending stack) (token : Token) :
  Ascending (step stack token).2
  := by
  cases token with
  | number x => apply h
  | operator op =>
    rw [step_operator]
    apply Ascending.operator (topPrecedence_popTighter_lt op stack)
    apply h.of_suffix (popTighter_suffix op stack)
  | opening => apply Ascending.opening h
  | closing => apply h.of_suffix (popGroup_suffix stack)

/-- An ascending stack is ascending after a run. -/
theorem run (h : Ascending stack) (tokens : List Token) :
  Ascending (run stack tokens).2
  := by
  induction tokens generalizing stack with
  | nil => apply h
  | cons token rest ih =>
    rw [run_cons]
    apply ih (h.step token)

/-! ### What an ascending stack looks like -/

/-- In a row of operators at the top of an ascending stack none binds tighter than the top. -/
theorem precedence_le_topPrecedence {op : Operator} (h : Ascending (ops.map .operator ++ below))
    (hop : op ∈ ops) :
  op.precedence ≤ topPrecedence (ops.map .operator ++ below)
  := by
  induction ops with
  | nil => cases hop
  | cons top ops ih =>
    rw [List.map_cons, List.cons_append] at h ⊢
    cases h with
    | operator htop hlower =>
      rw [topPrecedence_operator]
      obtain rfl | hop := List.mem_cons.mp hop
      · apply Nat.le_refl
      · exact Nat.le_of_lt (Nat.lt_of_le_of_lt (ih hlower hop) htop)

/-- A row of operators at the top of an ascending stack binds tighter from each operator to every
one above it. -/
theorem pairwise (h : Ascending (ops.map .operator ++ below)) :
  ops.Pairwise fun upper lower => lower.precedence < upper.precedence
  := by
  induction ops with
  | nil => apply List.Pairwise.nil
  | cons top ops ih =>
    rw [List.map_cons, List.cons_append] at h
    cases h with
    | operator htop hlower =>
      apply List.Pairwise.cons _ (ih hlower)
      intro op hop
      exact Nat.lt_of_le_of_lt (hlower.precedence_le_topPrecedence hop) htop

/-- The height of an ascending stack.  An operator on it adds one, and raises the precedence of
the top by one at least; an opening parenthesis makes room for two operators and itself. -/
theorem length_le (h : Ascending stack) :
  stack.length ≤ 3 * openings stack + topPrecedence stack
  := by
  induction h with
  | nil => apply Nat.le_refl
  | @opening below _ ih =>
    have htop := topPrecedence_le_two below
    rw [List.length_cons, openings_opening, topPrecedence_opening]
    omega
  | operator htop _ ih =>
    rw [List.length_cons, openings_operator, topPrecedence_operator]
    omega

end Ascending

/-! ### The stack along the tokens -/

/-- The stack on which the conversion goes on behind the tokens that it has processed.  It holds
operators and opening parentheses only.  Operators of it without a parenthesis between them bind
strictly tighter from the bottom to the top, and the opening parentheses are as many as the depth
behind the tokens.  So its height is bounded by the depth, however many tokens there are. -/
theorem stack_ascends_within_depth (tokens : List Token) :
  (∀ after, ofTokens (tokens ++ after)
      = (run [] tokens).1 ++ convert (run [] tokens).2 after)
    ∧ (∀ token ∈ (run [] tokens).2.map Pending.token,
      token = .opening ∨ ∃ op, token = .operator op)
    ∧ (∀ (above below : List Pending) (ops : List Operator),
      (run [] tokens).2 = above ++ (ops.map .operator ++ below) →
        ops.Pairwise fun upper lower => lower.precedence < upper.precedence)
    ∧ openings (run [] tokens).2 = unclosed 0 tokens
    ∧ (run [] tokens).2.length ≤ 3 * unclosed 0 tokens + 2
  := by
  have hascending : Ascending (run [] tokens).2 := Ascending.nil.run tokens
  have hdepth : openings (run [] tokens).2 = unclosed 0 tokens := openings_run [] tokens
  refine ⟨?_, ?_, ?_, hdepth, ?_⟩
  · intro after
    apply convert_append
  · intro token htoken
    obtain ⟨entry, -, rfl⟩ := List.mem_map.mp htoken
    cases entry with
    | operator op => exact Or.inr ⟨op, rfl⟩
    | opening => exact Or.inl rfl
  · intro above below ops hstack
    have hlower : ops.map .operator ++ below <:+ (run [] tokens).2 := ⟨above, hstack.symm⟩
    apply (hascending.of_suffix hlower).pairwise
  · rw [← hdepth]
    apply Nat.le_trans hascending.length_le
    apply Nat.add_le_add_left (topPrecedence_le_two _)

/-- Two operators below an opening parenthesis and two above it, behind a stray closing one. -/
def fullStackTokens : List Token :=
  [.closing, .operator .add, .operator .multiply, .opening, .operator .subtract, .number 4,
    .operator .divide]

/-- At depth one, five entries reach the bound. -/
theorem stack_ascends_within_depth_one :
  (run [] fullStackTokens).2
      = [.operator .divide, .operator .subtract, .opening, .operator .multiply, .operator .add]
    ∧ Operator.subtract.precedence < Operator.divide.precedence
    ∧ Operator.add.precedence < Operator.multiply.precedence
    ∧ openings (run [] fullStackTokens).2 = 1
    ∧ unclosed 0 fullStackTokens = 1
    ∧ (run [] fullStackTokens).2.length = 3 * unclosed 0 fullStackTokens + 2
  := by
  have hstack : (run [] fullStackTokens).2
      = [.operator .divide, .operator .subtract, .opening, .operator .multiply,
          .operator .add] := rfl
  obtain ⟨-, -, hrows, hdepth, hlength⟩ := stack_ascends_within_depth fullStackTokens
  have hupper := hrows [] _ [.divide, .subtract] hstack
  have hlower := hrows [.operator .divide, .operator .subtract, .opening] []
    [.multiply, .add] hstack
  refine ⟨hstack, ?_, ?_, rfl, hdepth.symm, Nat.le_antisymm hlength (Nat.le_refl 5)⟩
  · apply List.rel_of_pairwise_cons hupper (List.mem_singleton_self _)
  · apply List.rel_of_pairwise_cons hlower (List.mem_singleton_self _)

end Postfix

end DeskCalculator
