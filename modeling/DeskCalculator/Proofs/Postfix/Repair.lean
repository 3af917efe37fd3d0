import DeskCalculator.Proofs.Postfix.Parts

/-!
# Repaired parentheses

Tokens are repaired by opening every unopened parenthesis at the start and closing every
unclosed one at the end, which makes them balanced.  The conversion treats tokens as if
they were repaired, except that the unclosed parentheses stay in the output
(`ofTokens_repaired`).
-/

namespace DeskCalculator.Postfix

open Token

/-- Tokens with their unopened parentheses opened and their unclosed ones closed. -/
def repaired (tokens : List Token) : List Token :=
  List.replicate (unopened 0 tokens) .opening ++ tokens
    ++ List.replicate (unclosed 0 tokens) .closing

variable {stack : List Pending} {tokens : List Token}

/-! ### Rows of parentheses -/

theorem unopened_replicate_opening (depth n : Nat) :
  unopened depth (List.replicate n .opening) = 0
  := by
  induction n generalizing depth with
  | zero => rfl
  | succ n ih =>
    apply unopened_cons_eq_zero.mpr
    exact ⟨by simp, ih _⟩

theorem unclosed_replicate_opening (depth n : Nat) :
  unclosed depth (List.replicate n .opening) = depth + n
  := by
  induction n generalizing depth with
  | zero => rfl
  | succ n ih =>
    rw [List.replicate_succ, unclosed, depthAfter, ih]
    omega

theorem balanced_replicate_closing (n : Nat) :
  unopened n (List.replicate n .closing) = 0 ∧ unclosed n (List.replicate n .closing) = 0
  := by
  induction n with
  | zero => exact ⟨rfl, rfl⟩
  | succ n ih =>
    obtain ⟨hopened, hclosed⟩ := ih
    constructor
    · apply unopened_cons_eq_zero.mpr
      exact ⟨by simp, hopened⟩
    · apply hclosed

/-- Repaired tokens are balanced. -/
theorem balanced_repaired (tokens : List Token) :
  Balanced (repaired tokens)
  := by
  have hopened := unopened_add 0 (unopened 0 tokens) tokens
  have hclosed := unclosed_add 0 (unopened 0 tokens) tokens
  have hclosing := balanced_replicate_closing (unclosed 0 tokens)
  rw [Nat.zero_add, Nat.sub_self] at hopened hclosed
  constructor
  · rw [repaired, unopened_append, unopened_append, unclosed_append, unopened_replicate_opening,
      unclosed_replicate_opening, Nat.zero_add, Nat.zero_add, hopened, hclosed, Nat.add_zero,
      hclosing.1]
  · rw [repaired, unclosed_append, unclosed_append, unclosed_replicate_opening, Nat.zero_add,
      hclosed, Nat.add_zero, hclosing.2]

/-! ### Opening at the start

A closing parenthesis that finds no opening one empties the stack, and so it does if it
finds one at the very bottom.  The added parentheses lie there, and every unopened one
takes one of them off. -/

theorem run_replicate_opening (stack : List Pending) (n : Nat) :
  run stack (List.replicate n .opening) = ([], List.replicate n .opening ++ stack)
  := by
  induction n generalizing stack with
  | zero => rfl
  | succ n ih =>
    rw [List.replicate_succ, run_cons, step, ih, List.replicate_succ']
    simp

/-- A step on a stack with opening parentheses below it, as many as the tokens that follow
will need. -/
theorem step_above_openings (stack : List Pending) (token : Token) (rest : List Token) :
  step (stack ++ List.replicate (unopened (openings stack) (token :: rest)) .opening) token
    = ((step stack token).1,
        (step stack token).2
          ++ List.replicate (unopened (openings (step stack token).2) rest) .opening)
  := by
  rw [openings_step, unopened]
  by_cases htoken : openings stack = 0 ∧ token = .closing
  · obtain ⟨hopenings, rfl⟩ := htoken
    rw [if_pos ⟨hopenings, rfl⟩, Nat.add_comm, List.replicate_succ, step,
      popGroup_append_opening hopenings, step, popGroup_of_openings_eq_zero hopenings]
    rfl
  · rw [if_neg htoken, Nat.zero_add]
    apply step_append_stack _ htoken
    intro op _
    cases unopened (depthAfter (openings stack) token) rest <;> rfl

/-- Opening parentheses at the bottom of the stack change nothing if all of them are taken
off by unopened ones. -/
theorem run_above_openings (stack : List Pending) (tokens : List Token) :
  run (stack ++ List.replicate (unopened (openings stack) tokens) .opening) tokens
    = run stack tokens
  := by
  induction tokens generalizing stack with
  | nil => simp [unopened]
  | cons token rest ih => rw [run_cons, step_above_openings, ih, run_cons]

/-- Tokens are run as if their unopened parentheses were opened at the start. -/
theorem run_replicate_opening_append (tokens : List Token) :
  run [] (List.replicate (unopened 0 tokens) .opening ++ tokens) = run [] tokens
  := by
  have hrun := run_above_openings [] tokens
  rw [List.nil_append, openings_nil] at hrun
  rw [run_append, run_replicate_opening, List.append_nil, hrun, List.nil_append]

/-! ### Closing at the end -/

/-- A step sends no opening parenthesis to the output. -/
theorem opening_not_mem_step (stack : List Pending) (token : Token) :
  .opening ∉ (step stack token).1
  := by
  cases token with
  | number => simp [step]
  | operator op =>
    obtain ⟨popped, -, houtput, -⟩ := popTighter_spec op stack
    rw [step_operator, houtput]
    simp
  | opening => simp [step]
  | closing =>
    obtain ⟨popped, houtput, -⟩ := popGroup_spec stack
    rw [step, houtput]
    simp

/-- A run sends no opening parenthesis to the output. -/
theorem opening_not_mem_run (stack : List Pending) (tokens : List Token) :
  .opening ∉ (run stack tokens).1
  := by
  induction tokens generalizing stack with
  | nil => simp [run]
  | cons token rest ih =>
    rw [run_cons, List.mem_append, not_or]
    exact ⟨opening_not_mem_step stack token, ih _⟩

/-- Closing the parentheses on a stack leaves the operators on it. -/
theorem convert_replicate_closing (stack : List Pending) :
  convert stack (List.replicate (openings stack) .closing)
    = (stack.map Pending.token).filter (fun token => token ≠ .opening)
  := by
  induction stack with
  | nil => rfl
  | cons entry below ih =>
    cases entry with
    | opening =>
      rw [openings_opening, List.replicate_succ, convert_cons, step, popGroup, ih]
      simp [Pending.token]
    | operator top =>
      rw [openings_operator, List.map_cons, List.filter_cons_of_pos (by simp [Pending.token]),
        ← ih]
      cases openings below <;> rfl

/-- The conversion does not lose the opening parentheses on the stack. -/
theorem opening_mem_map_token_iff (stack : List Pending) :
  .opening ∈ stack.map Pending.token ↔ openings stack ≠ 0
  := by
  induction stack with
  | nil => simp
  | cons entry below ih => cases entry <;> simp [Pending.token, ih]

/-- Opening parentheses stay in the output exactly if some are unclosed. -/
theorem opening_mem_ofTokens_iff (tokens : List Token) :
  .opening ∈ ofTokens tokens ↔ unclosed 0 tokens ≠ 0
  := by
  rw [ofTokens, convert_eq_run, List.mem_append, opening_mem_map_token_iff, openings_run]
  simp [opening_not_mem_run]

/-- Opening parentheses are all that repaired tokens lose in the conversion. -/
theorem filter_ofTokens (tokens : List Token) :
  (ofTokens tokens).filter (fun token => token ≠ .opening) = ofTokens (repaired tokens)
  := by
  have houtput : (run [] tokens).1.filter (fun token => token ≠ .opening) = (run [] tokens).1 := by
    apply List.filter_eq_self.mpr
    intro token htoken
    apply decide_eq_true
    rintro rfl
    apply opening_not_mem_run [] tokens htoken
  have hstack := convert_replicate_closing (run [] tokens).2
  rw [openings_run, openings_nil] at hstack
  rw [repaired, ofTokens, convert_eq_run, List.filter_append, houtput, ← hstack, ofTokens,
    convert_append, run_replicate_opening_append]

/-- Tokens are converted as if they were repaired, except that unclosed parentheses stay in
the output: closing what is unclosed takes exactly the opening parentheses out, and opening
what is unopened changes nothing. -/
theorem ofTokens_repaired (tokens : List Token) :
  Balanced (repaired tokens)
    ∧ (ofTokens tokens).filter (fun token => token ≠ .opening) = ofTokens (repaired tokens)
    ∧ ofTokens tokens = ofTokens (List.replicate (unopened 0 tokens) .opening ++ tokens)
    ∧ (.opening ∈ ofTokens tokens ↔ unclosed 0 tokens ≠ 0)
  := by
  refine ⟨balanced_repaired tokens, filter_ofTokens tokens, ?_, opening_mem_ofTokens_iff tokens⟩
  rw [ofTokens, ofTokens, convert_eq_run, convert_eq_run, run_replicate_opening_append]

end DeskCalculator.Postfix
