import DeskCalculator.Postfix
import DeskCalculator.Proofs.Nesting
import Mathlib.Tactic.Use

/-!
# Runs of the conversion

The conversion of tokens as a run from stack to stack.  `openings` counts the opening
parentheses on the stack; along a run it is the depth of the tokens (`openings_run`).

The lower part of a stack takes no part in a run that neither closes a parenthesis of it
nor meets, outside all parentheses of the upper part, an operator that would pop it
(`run_append_stack`).
-/

namespace DeskCalculator.Postfix

open Token

/-- What tokens send to the output, and the stack after them. -/
def run (stack : List Pending) : List Token → List Token × List Pending
  | [] => ([], stack)
  | token :: rest =>
    let (output, stack) := step stack token
    let (outputs, stack) := run stack rest
    (output ++ outputs, stack)

theorem run_cons (stack : List Pending) (token : Token) (rest : List Token) :
  run stack (token :: rest)
    = ((step stack token).1 ++ (run (step stack token).2 rest).1,
        (run (step stack token).2 rest).2)
  := rfl

theorem run_append (stack : List Pending) (before after : List Token) :
  run stack (before ++ after)
    = ((run stack before).1 ++ (run (run stack before).2 after).1,
        (run (run stack before).2 after).2)
  := by
  induction before generalizing stack with
  | nil => rfl
  | cons token rest ih => simp only [List.cons_append, run_cons, ih, List.append_assoc]

/-- The conversion is the output of the run followed by what is left on the stack. -/
theorem convert_eq_run (stack : List Pending) (tokens : List Token) :
  convert stack tokens = (run stack tokens).1 ++ (run stack tokens).2.map Pending.token
  := by
  induction tokens generalizing stack with
  | nil => rfl
  | cons token rest ih => simp only [convert, run_cons, ih, List.append_assoc]

theorem convert_cons (stack : List Pending) (token : Token) (rest : List Token) :
  convert stack (token :: rest)
    = (step stack token).1 ++ convert (step stack token).2 rest
  := rfl

/-- Tokens after others are converted from the stack that those leave. -/
theorem convert_append (stack : List Pending) (before after : List Token) :
  convert stack (before ++ after)
    = (run stack before).1 ++ convert (run stack before).2 after
  := by
  rw [convert_eq_run, convert_eq_run, run_append, List.append_assoc]

/-! ### What a step takes off the stack -/

theorem step_operator (stack : List Pending) (op : Operator) :
  step stack (.operator op)
    = ((popTighter op stack).1, .operator op :: (popTighter op stack).2)
  := rfl

/-- An operator takes pending operators off the stack that bind at least as tightly, and
sends them to the output. -/
theorem popTighter_spec (op : Operator) (stack : List Pending) :
  ∃ popped : List Operator,
    stack = popped.map .operator ++ (popTighter op stack).2
      ∧ (popTighter op stack).1 = popped.map .operator
      ∧ ∀ top ∈ popped, op.precedence ≤ top.precedence
  := by
  induction stack with
  | nil => exact ⟨[], rfl, rfl, by simp⟩
  | cons entry below ih =>
    cases entry with
    | opening => exact ⟨[], rfl, rfl, by simp⟩
    | operator top =>
      rw [popTighter]
      split
      · exact ⟨[], rfl, rfl, by simp⟩
      · next htop =>
        obtain ⟨popped, hstack, houtput, hpopped⟩ := ih
        use top :: popped
        refine ⟨?_, ?_, ?_⟩
        · rw [List.map_cons, List.cons_append, ← hstack]
        · rw [List.map_cons, ← houtput]
        · intro o ho
          obtain rfl | ho := List.mem_cons.mp ho
          · omega
          · apply hpopped o ho

/-- A closing parenthesis takes the operators above the last opening one off the stack and
that one with them, or all operators if there is no opening one. -/
theorem popGroup_spec (stack : List Pending) :
  ∃ popped : List Operator,
    (popGroup stack).1 = popped.map .operator
      ∧ (stack = popped.map .operator ++ .opening :: (popGroup stack).2
        ∨ stack = popped.map .operator ∧ (popGroup stack).2 = [])
  := by
  induction stack with
  | nil => exact ⟨[], rfl, .inr ⟨rfl, rfl⟩⟩
  | cons entry below ih =>
    cases entry with
    | opening => exact ⟨[], rfl, .inl rfl⟩
    | operator top =>
      obtain ⟨popped, houtput, hstack⟩ := ih
      use top :: popped
      constructor
      · rw [popGroup, List.map_cons, ← houtput]
      · obtain hstack | ⟨hstack, hrest⟩ := hstack
        · left
          rw [popGroup, List.map_cons, List.cons_append, ← hstack]
        · right
          rw [popGroup, List.map_cons, ← hstack]
          exact ⟨rfl, hrest⟩

theorem popTighter_suffix (op : Operator) (stack : List Pending) :
  (popTighter op stack).2 <:+ stack
  := by
  obtain ⟨popped, hstack, -, -⟩ := popTighter_spec op stack
  exact ⟨popped.map .operator, hstack.symm⟩

theorem popGroup_suffix (stack : List Pending) :
  (popGroup stack).2 <:+ stack
  := by
  obtain ⟨popped, -, hstack | ⟨-, hrest⟩⟩ := popGroup_spec stack
  · use popped.map .operator ++ [.opening]
    rw [List.append_assoc]
    apply hstack.symm
  · rw [hrest]
    apply List.nil_suffix

/-! ### The depth -/

/-- The number of opening parentheses on a stack. -/
def openings (stack : List Pending) : Nat :=
  stack.count .opening

@[simp]
theorem openings_nil :
  openings [] = 0
  := rfl

@[simp]
theorem openings_operator (op : Operator) (stack : List Pending) :
  openings (.operator op :: stack) = openings stack
  := List.count_cons_of_ne (by simp)

@[simp]
theorem openings_opening (stack : List Pending) :
  openings (.opening :: stack) = openings stack + 1
  := List.count_cons_self

@[simp]
theorem openings_append (stack below : List Pending) :
  openings (stack ++ below) = openings stack + openings below
  := List.count_append

@[simp]
theorem openings_map_operator (ops : List Operator) :
  openings (ops.map .operator) = 0
  := by
  induction ops with
  | nil => rfl
  | cons op ops ih => rw [List.map_cons, openings_operator, ih]

/-- Along a step the opening parentheses on the stack follow the depth. -/
theorem openings_step (stack : List Pending) (token : Token) :
  openings (step stack token).2 = depthAfter (openings stack) token
  := by
  cases token with
  | number => rfl
  | operator op =>
    obtain ⟨popped, hstack, -, -⟩ := popTighter_spec op stack
    have hopenings := congrArg openings hstack
    rw [openings_append, openings_map_operator, Nat.zero_add] at hopenings
    rw [step, openings_operator, depthAfter, hopenings]
  | opening => apply openings_opening
  | closing =>
    obtain ⟨popped, -, hstack | ⟨hstack, hrest⟩⟩ := popGroup_spec stack
    · have hopenings := congrArg openings hstack
      rw [openings_append, openings_map_operator, openings_opening] at hopenings
      rw [step, depthAfter]
      omega
    · rw [step, depthAfter, hrest, hstack, openings_map_operator, openings_nil]

/-- The opening parentheses on the stack after a run are as many as the depth. -/
theorem openings_run (stack : List Pending) (tokens : List Token) :
  openings (run stack tokens).2 = unclosed (openings stack) tokens
  := by
  induction tokens generalizing stack with
  | nil => rfl
  | cons token rest ih => rw [run_cons, ih, openings_step, unclosed]

/-! ### The lower part of a stack -/

theorem popTighter_append {op : Operator} {below : List Pending} (stack : List Pending)
    (h : openings stack = 0 → popTighter op below = ([], below)) :
  popTighter op (stack ++ below)
    = ((popTighter op stack).1, (popTighter op stack).2 ++ below)
  := by
  induction stack with
  | nil => apply h rfl
  | cons entry rest ih =>
    cases entry with
    | opening => rfl
    | operator top =>
      rw [List.cons_append, popTighter, popTighter]
      split
      · rfl
      · rw [openings_operator] at h
        rw [ih h]

theorem popGroup_append {stack : List Pending} (h : openings stack ≠ 0) (below : List Pending) :
  popGroup (stack ++ below) = ((popGroup stack).1, (popGroup stack).2 ++ below)
  := by
  induction stack with
  | nil => exact absurd rfl h
  | cons entry rest ih =>
    cases entry with
    | opening => rfl
    | operator top =>
      rw [openings_operator] at h
      rw [List.cons_append, popGroup, ih h, popGroup]

/-- A step leaves the lower part of a stack alone if it neither closes a parenthesis of it
nor is an operator that would pop it. -/
theorem step_append_stack {stack : List Pending} (below : List Pending) {token : Token}
    (hclosed : ¬ (openings stack = 0 ∧ token = .closing))
    (hbelow : ∀ op ∈ outerOperator? (openings stack) token, popTighter op below = ([], below)) :
  step (stack ++ below) token = ((step stack token).1, (step stack token).2 ++ below)
  := by
  cases token with
  | number => rfl
  | operator op =>
    have hpop : openings stack = 0 → popTighter op below = ([], below) := by
      intro hdepth
      apply hbelow
      rw [hdepth]
      rfl
    rw [step, popTighter_append stack hpop, step, List.cons_append]
  | opening => rfl
  | closing =>
    have hdepth : openings stack ≠ 0 := by
      intro hdepth
      apply hclosed ⟨hdepth, rfl⟩
    apply popGroup_append hdepth

/-- A run leaves the lower part of a stack alone if it neither closes a parenthesis of it
nor meets an outer operator that would pop it. -/
theorem run_append_stack (stack : List Pending) {below : List Pending} {tokens : List Token}
    (hclosed : unopened (openings stack) tokens = 0)
    (hbelow : ∀ op ∈ outerOperators (openings stack) tokens,
      popTighter op below = ([], below)) :
  run (stack ++ below) tokens = ((run stack tokens).1, (run stack tokens).2 ++ below)
  := by
  induction tokens generalizing stack with
  | nil => rfl
  | cons token rest ih =>
    obtain ⟨htoken, hrest⟩ := unopened_cons_eq_zero.mp hclosed
    rw [outerOperators, ← openings_step] at hbelow
    rw [← openings_step] at hrest
    have hstep := step_append_stack below htoken (by
      intro op hop
      apply hbelow
      apply List.mem_append_left
      simpa using hop)
    have hrun := ih _ hrest (by
      intro op hop
      apply hbelow
      apply List.mem_append_right _ hop)
    rw [run_cons, hstep, hrun, run_cons]

/-- Tokens within a group are run as if they stood alone. -/
theorem run_above_opening {tokens : List Token} (h : unopened 0 tokens = 0)
    (below : List Pending) :
  run (.opening :: below) tokens
    = ((run [] tokens).1, (run [] tokens).2 ++ .opening :: below)
  := by
  apply run_append_stack []
  · apply h
  · intro op _
    rfl

end DeskCalculator.Postfix
