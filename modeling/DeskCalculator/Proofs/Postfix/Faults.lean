import DeskCalculator.Proofs.Postfix.Tree
import DeskCalculator.Proofs.Token.Content

/-!
# Faults of a postfix expression

A token of a postfix expression is at fault if it is a parenthesis, an operator that meets
fewer than two operands, or a division by one of the two zeros.  How many operands there are
follows from the tokens before: every number adds one, and every operator that is not at
fault takes two off and puts one back.

The reduction stops at the first token at fault, and otherwise leaves as many operands as
that count says (`value_tree_or_first_fault`).
-/

namespace DeskCalculator.Postfix

open Token

variable {tokens before : List Token} {token : Token} {operands rest : List Float} {fault : Fault}

/-! ### The number of operands -/

theorem length_reduceToken (h : reduceToken operands token = .ok rest) :
  rest.length + (operators [token]).length = operands.length + (numbers [token]).length
  := by
  obtain ⟨x, rfl, rfl⟩ | ⟨op, a, b, x, below, rfl, rfl, -, rfl⟩ := reduceToken_eq_ok_iff.mp h
  · rfl
  · rfl

/-- A reduction that succeeds leaves an operand more for each number, and one less for each
operator. -/
theorem length_reduce (h : reduce operands tokens = .ok rest) :
  rest.length + (operators tokens).length = operands.length + (numbers tokens).length
  := by
  induction tokens generalizing operands with
  | nil =>
    cases h
    rfl
  | cons token tokens ih =>
    obtain ⟨next, hstep, hrest⟩ := reduce_cons_eq_ok h
    have hnext := length_reduceToken hstep
    have hlast := ih hrest
    rw [← List.singleton_append, operators_append, numbers_append, List.length_append,
      List.length_append]
    omega

/-- The operands that a reduction leaves are the numbers in excess of the operators. -/
theorem length_numbers_of_reduce (h : reduce [] tokens = .ok operands) :
  (numbers tokens).length = (operators tokens).length + operands.length
  := by
  have hlength := length_reduce h
  rw [List.length_nil] at hlength
  omega

/-- Only a reduction of nothing leaves nothing. -/
theorem eq_nil_of_reduce_eq_nil (h : reduce [] tokens = .ok []) :
  tokens = []
  := by
  obtain ⟨trees, htrees, hlisting⟩ := exists_trees_of_reduce .nil h
  rw [List.forall₂_nil_right_iff.mp htrees] at hlisting
  apply hlisting.symm

/-! ### Tokens at fault -/

/-- The fault of a token behind others.  A division is only at fault for its divisor, the
operand on top, if it finds both operands. -/
inductive FaultAfter (before : List Token) : Token → Fault → Prop where
  | opening : FaultAfter before .opening .strayParenthesis
  | closing : FaultAfter before .closing .strayParenthesis
  | missingOperand {op : Operator}
      (h : (numbers before).length < (operators before).length + 2) :
      FaultAfter before (.operator op) (.missingOperand op)
  | divisionByZero {b : Float} {below : List Float}
      (hcount : (operators before).length + 2 ≤ (numbers before).length)
      (htop : reduce [] before = .ok (b :: below)) (hzero : IsZero b) :
      FaultAfter before (.operator .divide) .divisionByZero

/-- No token is at fault. -/
def Faultless (tokens : List Token) : Prop :=
  ∀ before token after, tokens = before ++ token :: after → ∀ fault, ¬ FaultAfter before token fault

/-- The fault of the first token that is at fault. -/
def FirstFault (tokens : List Token) (fault : Fault) : Prop :=
  ∃ before token after, tokens = before ++ token :: after
    ∧ Faultless before ∧ FaultAfter before token fault

/-- A step of a reduction fails exactly if its token is at fault. -/
theorem reduceToken_eq_error_iff_faultAfter (h : reduce [] before = .ok operands) :
  reduceToken operands token = .error fault ↔ FaultAfter before token fault
  := by
  have hlength := length_numbers_of_reduce h
  rw [reduceToken_eq_error_iff]
  constructor
  · rintro (⟨rfl | rfl, rfl⟩ | ⟨op, rfl, hcount, rfl⟩ | ⟨a, b, below, rfl, rfl, hzero, rfl⟩)
    · apply FaultAfter.opening
    · apply FaultAfter.closing
    · apply FaultAfter.missingOperand
      omega
    · apply FaultAfter.divisionByZero _ h hzero
      rw [List.length_cons, List.length_cons] at hlength
      omega
  · intro hfault
    cases hfault with
    | opening => exact .inl ⟨.inl rfl, rfl⟩
    | closing => exact .inl ⟨.inr rfl, rfl⟩
    | missingOperand hcount => exact .inr (.inl ⟨_, rfl, by omega, rfl⟩)
    | @divisionByZero b below hcount htop hzero =>
      rw [h] at htop
      cases htop
      rw [List.length_cons] at hlength
      obtain ⟨a, others, rfl⟩ := List.exists_cons_of_length_pos (l := below) (by omega)
      exact .inr (.inr ⟨a, b, others, rfl, rfl, hzero, rfl⟩)

/-- A reduction stops at the token whose step fails. -/
theorem reduce_eq_error_iff :
  reduce operands tokens = .error fault
    ↔ ∃ before token after next, tokens = before ++ token :: after
      ∧ reduce operands before = .ok next ∧ reduceToken next token = .error fault
  := by
  constructor
  · intro h
    induction tokens generalizing operands with
    | nil => cases h
    | cons token tokens ih =>
      cases hstep : reduceToken operands token with
      | error other =>
        rw [reduce_cons, hstep] at h
        cases h
        exact ⟨[], token, tokens, operands, rfl, rfl, hstep⟩
      | ok next =>
        rw [reduce_cons, hstep] at h
        obtain ⟨before, last, after, top, rfl, hbefore, hlast⟩ := ih h
        refine ⟨token :: before, last, after, top, rfl, ?_, hlast⟩
        rw [reduce_cons, hstep]
        apply hbefore
  · rintro ⟨before, token, after, next, rfl, hbefore, hstep⟩
    rw [reduce_append, hbefore]
    show reduce next (token :: after) = _
    rw [reduce_cons, hstep]
    rfl

/-- A reduction succeeds exactly if no token is at fault. -/
theorem exists_reduce_eq_ok_iff :
  (∃ operands, reduce [] tokens = .ok operands) ↔ Faultless tokens
  := by
  constructor
  · rintro ⟨operands, h⟩ before token after rfl fault hfault
    cases hbefore : reduce [] before with
    | error other =>
      rw [reduce_append, hbefore] at h
      cases h
    | ok next =>
      have hstep := (reduceToken_eq_error_iff_faultAfter hbefore).mpr hfault
      have herror := reduce_eq_error_iff.mpr ⟨before, token, after, next, rfl, hbefore, hstep⟩
      rw [h] at herror
      cases herror
  · intro h
    cases hreduce : reduce [] tokens with
    | ok operands => exact ⟨operands, rfl⟩
    | error fault =>
      obtain ⟨before, token, after, next, htokens, hbefore, hstep⟩ :=
        reduce_eq_error_iff.mp hreduce
      exact absurd ((reduceToken_eq_error_iff_faultAfter hbefore).mp hstep)
        (h before token after htokens fault)

/-- A reduction fails exactly with the fault of the first token at fault. -/
theorem reduce_eq_error_iff_firstFault :
  reduce [] tokens = .error fault ↔ FirstFault tokens fault
  := by
  rw [reduce_eq_error_iff]
  constructor
  · rintro ⟨before, token, after, next, htokens, hbefore, hstep⟩
    exact ⟨before, token, after, htokens, exists_reduce_eq_ok_iff.mp ⟨next, hbefore⟩,
      (reduceToken_eq_error_iff_faultAfter hbefore).mp hstep⟩
  · rintro ⟨before, token, after, htokens, hbefore, hfault⟩
    obtain ⟨next, hnext⟩ := exists_reduce_eq_ok_iff.mpr hbefore
    exact ⟨before, token, after, next, htokens, hnext,
      (reduceToken_eq_error_iff_faultAfter hnext).mpr hfault⟩

/-! ### Faults of the whole expression -/

/-- A postfix expression has no value if its reduction fails, or does not leave one
operand. -/
theorem value_eq_error_iff_reduce :
  value tokens = .error fault
    ↔ reduce [] tokens = .error fault
      ∨ ∃ operands, reduce [] tokens = .ok operands
        ∧ (operands = [] ∧ fault = .emptyExpression
          ∨ 2 ≤ operands.length ∧ fault = .excessOperands operands.length)
  := by
  rw [value]
  cases reduce [] tokens with
  | error other => simp [bind, Except.bind]
  | ok operands =>
    obtain _ | ⟨x, _ | ⟨y, others⟩⟩ := operands
    · simp [bind, Except.bind, eq_comm]
    · simp [bind, Except.bind]
    · simp [bind, Except.bind, eq_comm]

/-- Only no tokens at all are an empty expression. -/
theorem value_eq_emptyExpression_iff :
  value tokens = .error .emptyExpression ↔ tokens = []
  := by
  constructor
  · intro h
    obtain herror | ⟨operands, hreduce, ⟨rfl, -⟩ | ⟨-, hfault⟩⟩ := value_eq_error_iff_reduce.mp h
    · obtain ⟨_, _, _, -, -, hfault⟩ := reduce_eq_error_iff_firstFault.mp herror
      cases hfault
    · apply eq_nil_of_reduce_eq_nil hreduce
    · cases hfault
  · rintro rfl
    rfl

/-- Tokens have a value exactly if they are the postorder listing of a tree with that value.
Otherwise they have the fault of the first token at fault; and if no token is at fault, either
there are no tokens, or there are at least two more numbers than operators and so many
operands are left. -/
theorem value_tree_or_first_fault (tokens : List Token) :
  (∀ x, value tokens = .ok x ↔ ∃ tree : Tree, tree.postorder = tokens ∧ tree.value = .ok x)
    ∧ ∀ fault, value tokens = .error fault
      ↔ FirstFault tokens fault
        ∨ Faultless tokens
          ∧ (tokens = [] ∧ fault = .emptyExpression
            ∨ ∃ count, 2 ≤ count
              ∧ (numbers tokens).length = (operators tokens).length + count
              ∧ fault = .excessOperands count)
  := by
  constructor
  · intro x
    apply value_eq_ok_iff_exists_tree
  · intro fault
    rw [value_eq_error_iff_reduce, reduce_eq_error_iff_firstFault]
    apply or_congr_right
    constructor
    · rintro ⟨operands, hreduce, hfault⟩
      refine ⟨exists_reduce_eq_ok_iff.mp ⟨operands, hreduce⟩, ?_⟩
      obtain ⟨rfl, rfl⟩ | ⟨hcount, rfl⟩ := hfault
      · exact .inl ⟨eq_nil_of_reduce_eq_nil hreduce, rfl⟩
      · exact .inr ⟨operands.length, hcount, length_numbers_of_reduce hreduce, rfl⟩
    · rintro ⟨hfaultless, hfault⟩
      obtain ⟨operands, hreduce⟩ := exists_reduce_eq_ok_iff.mpr hfaultless
      refine ⟨operands, hreduce, ?_⟩
      obtain ⟨rfl, rfl⟩ | ⟨count, hcount, hnumbers, rfl⟩ := hfault
      · cases hreduce
        exact .inl ⟨rfl, rfl⟩
      · have hlength := length_numbers_of_reduce hreduce
        obtain rfl : count = operands.length := by omega
        exact .inr ⟨hcount, rfl⟩

/-- A zero on top is no divisor as long as the dividend is missing. -/
example : value [.number 0, .operator .divide, .closing] = .error (.missingOperand .divide) := rfl

end DeskCalculator.Postfix
