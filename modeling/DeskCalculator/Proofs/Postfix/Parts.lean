import DeskCalculator.Proofs.Postfix.Run

/-!
# Conversion of the parts of an expression

The postfix order of an expression is made of the postfix orders of its parts.  A group
contributes its own postfix order, whatever is on the stack (`run_group`).  An outer
operator that binds no tighter than the outer operators before it and less tightly than
those after it comes after the postfix orders of its two sides (`ofTokens_operator`).
-/

namespace DeskCalculator.Postfix

open Token

/-! ### Groups -/

/-- Without an opening parenthesis in its upper part, a stack loses that part and then what
a closing parenthesis takes off the lower part. -/
theorem popGroup_append_of_openings_eq_zero {stack : List Pending} (h : openings stack = 0)
    (below : List Pending) :
  popGroup (stack ++ below)
    = (stack.map Pending.token ++ (popGroup below).1, (popGroup below).2)
  := by
  induction stack with
  | nil => rfl
  | cons entry rest ih =>
    cases entry with
    | opening => simp at h
    | operator top =>
      rw [openings_operator] at h
      rw [List.cons_append, popGroup, ih h]
      rfl

/-- A closing parenthesis that finds no opening one empties the stack. -/
theorem popGroup_of_openings_eq_zero {stack : List Pending} (h : openings stack = 0) :
  popGroup stack = (stack.map Pending.token, [])
  := by
  have hpop := popGroup_append_of_openings_eq_zero h []
  rwa [List.append_nil, popGroup, List.append_nil] at hpop

/-- A closing parenthesis takes the stack off down to the last opening one. -/
theorem popGroup_append_opening {stack : List Pending} (h : openings stack = 0)
    (below : List Pending) :
  popGroup (stack ++ .opening :: below) = (stack.map Pending.token, below)
  := by
  rw [popGroup_append_of_openings_eq_zero h, popGroup, List.append_nil]

/-- A group is sent to the output in its own postfix order, and leaves the stack as it
is. -/
theorem run_group {group : List Token} (h : Balanced group) (stack : List Pending) :
  run stack (.opening :: group ++ [.closing]) = (ofTokens group, stack)
  := by
  have hopenings : openings (run [] group).2 = 0 := by
    rw [openings_run]
    apply h.unclosed_eq_zero
  have hgroup := run_above_opening h.unopened_eq_zero stack
  rw [List.cons_append, run_cons, step, run_append, hgroup, run_cons, step,
    popGroup_append_opening hopenings, ofTokens, convert_eq_run]
  simp [run]

theorem ofTokens_group {group : List Token} (h : Balanced group) :
  ofTokens (.opening :: group ++ [.closing]) = ofTokens group
  := by
  rw [ofTokens, convert_eq_run, run_group h]
  apply List.append_nil

theorem ofTokens_number_cons (x : Float) (rest : List Token) :
  ofTokens (.number x :: rest) = .number x :: ofTokens rest
  := rfl

theorem ofTokens_group_append {group : List Token} (h : Balanced group) (rest : List Token) :
  ofTokens (.opening :: group ++ [.closing] ++ rest) = ofTokens group ++ ofTokens rest
  := by
  rw [ofTokens, convert_append, run_group h, ← ofTokens]

/-! ### Outer operators -/

/-- The operators on a stack that are below all opening parentheses. -/
def outerPending : List Pending → List Operator
  | [] => []
  | .operator op :: below =>
    if openings below = 0 then op :: outerPending below else outerPending below
  | .opening :: below => outerPending below

theorem outerPending_subset_of_suffix {below stack : List Pending} (h : below <:+ stack) :
  outerPending below ⊆ outerPending stack
  := by
  induction stack with
  | nil =>
    rw [List.suffix_nil.mp h]
    apply List.Subset.refl
  | cons entry rest ih =>
    obtain rfl | hrest := List.suffix_cons_iff.mp h
    · apply List.Subset.refl
    · apply List.Subset.trans (ih hrest)
      cases entry with
      | opening => apply List.Subset.refl
      | operator op =>
        rw [outerPending]
        split
        · apply List.subset_cons_self
        · apply List.Subset.refl

/-- An outer operator on the stack after a step was there before, or is the token. -/
theorem mem_outerPending_step {stack : List Pending} {token : Token} {op : Operator}
    (h : op ∈ outerPending (step stack token).2) :
  op ∈ outerPending stack ∨ op ∈ outerOperator? (openings stack) token
  := by
  cases token with
  | number => exact .inl h
  | operator top =>
    have hsuffix := popTighter_suffix top stack
    have hopenings := openings_step stack (.operator top)
    rw [step, openings_operator, depthAfter] at hopenings
    rw [step, outerPending] at h
    split at h
    · next hdepth =>
      obtain rfl | hbelow := List.mem_cons.mp h
      · right
        rw [← hopenings, hdepth]
        rfl
      · left
        apply outerPending_subset_of_suffix hsuffix hbelow
    · left
      apply outerPending_subset_of_suffix hsuffix h
  | opening => exact .inl h
  | closing =>
    left
    apply outerPending_subset_of_suffix (popGroup_suffix stack) h

/-- An outer operator on the stack after a run was there before, or is one of the tokens. -/
theorem mem_outerPending_run {stack : List Pending} {tokens : List Token} {op : Operator}
    (h : op ∈ outerPending (run stack tokens).2) :
  op ∈ outerPending stack ∨ op ∈ outerOperators (openings stack) tokens
  := by
  induction tokens generalizing stack with
  | nil => exact .inl h
  | cons token rest ih =>
    rw [outerOperators, List.mem_append, Option.mem_toList]
    rw [run_cons] at h
    obtain hstep | hrest := ih h
    · obtain hstack | htoken := mem_outerPending_step hstep
      · exact .inl hstack
      · exact .inr (.inl htoken)
    · rw [openings_step] at hrest
      exact .inr (.inr hrest)

/-- An operator takes all outer operators off the stack if it binds no tighter than any of
them. -/
theorem popTighter_of_openings_eq_zero {op : Operator} {stack : List Pending}
    (hopenings : openings stack = 0)
    (hpending : ∀ top ∈ outerPending stack, op.precedence ≤ top.precedence) :
  popTighter op stack = (stack.map Pending.token, [])
  := by
  induction stack with
  | nil => rfl
  | cons entry rest ih =>
    cases entry with
    | opening => simp at hopenings
    | operator top =>
      rw [openings_operator] at hopenings
      rw [outerPending, if_pos hopenings] at hpending
      have htop : ¬ top.precedence < op.precedence := by
        apply Nat.not_lt.mpr
        apply hpending top List.mem_cons_self
      have hrest := ih hopenings fun o ho => hpending o (List.mem_cons_of_mem top ho)
      rw [popTighter, if_neg htop, hrest]
      rfl

/-- An outer operator comes after the postfix orders of its two sides, if it binds no
tighter than the outer operators on its left and less tightly than those on its right. -/
theorem ofTokens_operator {left right : List Token} {op : Operator}
    (hclosed : unclosed 0 left = 0) (hopened : unopened 0 right = 0)
    (hleft : ∀ o ∈ outerOperators 0 left, op.precedence ≤ o.precedence)
    (hright : ∀ o ∈ outerOperators 0 right, op.precedence < o.precedence) :
  ofTokens (left ++ .operator op :: right) = ofTokens left ++ ofTokens right ++ [.operator op]
  := by
  have hopenings : openings (run [] left).2 = 0 := by
    rw [openings_run]
    apply hclosed
  have hpop : popTighter op (run [] left).2 = ((run [] left).2.map Pending.token, []) := by
    apply popTighter_of_openings_eq_zero hopenings
    intro top htop
    obtain hnil | htop := mem_outerPending_run htop
    · cases hnil
    · apply hleft top htop
  have hrun : run [.operator op] right
      = ((run [] right).1, (run [] right).2 ++ [.operator op]) := by
    apply run_append_stack [] hopened
    intro o ho
    rw [popTighter, if_pos (hright o ho)]
  rw [ofTokens, convert_append, convert_cons, step_operator, hpop, convert_eq_run, hrun]
  simp only [ofTokens, convert_eq_run, List.map_append, List.append_assoc]
  rfl

end DeskCalculator.Postfix
