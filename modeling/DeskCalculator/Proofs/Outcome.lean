import DeskCalculator.Expression
import DeskCalculator.Proofs.Postfix.Conservation
import DeskCalculator.Proofs.Postfix.Faults
import DeskCalculator.Proofs.Token.Refusal

/-!
# What an outcome tells of a text

The conversion keeps the numbers, the operators and the unclosed parentheses of a text, and
the reduction counts the numbers and operators and stops at the parentheses.  So the outcome
tells how many of them the text has (`value_tells_counts`).  A character that it names is the first
one that the strict reading refuses (`exists_firstRefused_of_value`).
-/

namespace DeskCalculator.Postfix

open Token

variable {tokens : List Token}

/-- If the reduction of converted tokens succeeds, none of their parentheses is unclosed, and
the operands left are the numbers in excess of the operators. -/
theorem counts_of_reduce_ofTokens {operands : List Float}
    (h : reduce [] (ofTokens tokens) = .ok operands) :
  unclosed 0 tokens = 0
    ∧ (numbers tokens).length = (operators tokens).length + operands.length
  := by
  constructor
  · apply Decidable.byContradiction
    intro hunclosed
    apply opening_not_mem_of_reduce h
    apply (opening_mem_ofTokens_iff tokens).mpr hunclosed
  · have hlength := length_numbers_of_reduce h
    rwa [numbers_ofTokens, (operators_ofTokens_perm tokens).length_eq] at hlength

/-- Tokens are converted to nothing exactly if they have no numbers, no operators and no
unclosed parentheses. -/
theorem ofTokens_eq_nil_iff :
  ofTokens tokens = []
    ↔ (numbers tokens).length = 0 ∧ (operators tokens).length = 0 ∧ unclosed 0 tokens = 0
  := by
  have hopening := opening_mem_ofTokens_iff tokens
  have hclosing := closing_not_mem_ofTokens tokens
  rw [eq_nil_iff_numbers_operators, ← List.length_eq_zero_iff, ← List.length_eq_zero_iff,
    numbers_ofTokens, (operators_ofTokens_perm tokens).length_eq, hopening, ne_eq, not_not]
  simp only [hclosing, not_false_eq_true, and_true]

/-- What a fault tells of the tokens that have it. -/
inductive Explains (tokens : List Token) : Fault → Prop where
  | divisionByZero : Explains tokens .divisionByZero
  | missingOperand {op : Operator} (h : .operator op ∈ tokens) :
      Explains tokens (.missingOperand op)
  | excessOperands {count : Nat} (hunclosed : unclosed 0 tokens = 0)
      (hnumbers : (numbers tokens).length = (operators tokens).length + count)
      (hcount : 2 ≤ count) : Explains tokens (.excessOperands count)
  | emptyExpression : Explains tokens .emptyExpression
  | strayParenthesis (h : 0 < unclosed 0 tokens) : Explains tokens .strayParenthesis

/-- A token at fault is one that the tokens before the conversion have. -/
theorem explains_of_faultAfter {before : List Token} {token : Token} {fault : Fault}
    (htoken : token ∈ ofTokens tokens) (h : FaultAfter before token fault) :
  Explains tokens fault
  := by
  cases h with
  | opening =>
    apply Explains.strayParenthesis
    apply Nat.pos_of_ne_zero
    apply (opening_mem_ofTokens_iff tokens).mp htoken
  | closing => exact absurd htoken (closing_not_mem_ofTokens tokens)
  | missingOperand =>
    apply Explains.missingOperand
    rw [← mem_operators_iff] at htoken ⊢
    apply (operators_ofTokens_perm tokens).mem_iff.mp htoken
  | divisionByZero => apply Explains.divisionByZero

/-- The fault in converted tokens tells what `Explains` says of the tokens before the
conversion. -/
theorem explains_of_value_ofTokens {fault : Fault} (h : value (ofTokens tokens) = .error fault) :
  Explains tokens fault
  := by
  obtain herror | ⟨operands, hreduce, hfault⟩ := value_eq_error_iff_reduce.mp h
  · obtain ⟨before, token, after, htokens, -, hfault⟩ := reduce_eq_error_iff_firstFault.mp herror
    apply explains_of_faultAfter _ hfault
    simp [htokens]
  · obtain ⟨-, rfl⟩ | ⟨hcount, rfl⟩ := hfault
    · apply Explains.emptyExpression
    · obtain ⟨hunclosed, hnumbers⟩ := counts_of_reduce_ofTokens hreduce
      apply Explains.excessOperands hunclosed hnumbers hcount

end DeskCalculator.Postfix

namespace DeskCalculator.Expression

open Postfix Token

/-- The lenient reading always has tokens. -/
theorem value_false (text : String) :
  value false text = Postfix.value (ofTokens (scan text))
  := rfl

/-- A character that the outcome of an evaluation names is the first one that the strict reading
refuses. -/
theorem exists_firstRefused_of_value {strict : Bool} {text : String} {c : Char}
    {offset : Nat} (h : value strict text = .error (.unexpectedCharacter c offset)) :
  strict = true
    ∧ ∃ before, FirstRefused text.toList before c ∧ offset = byteLength before
  := by
  cases htokens : tokens strict text with
  | ok read =>
    rw [value, htokens] at h
    cases Postfix.explains_of_value_ofTokens h
  | error fault =>
    rw [value, htokens] at h
    cases h
    cases strict with
    | false => cases htokens
    | true =>
      obtain ⟨before, d, hfirst, heq⟩ := exists_firstRefused_of_scanCharsStrict htokens
      obtain ⟨rfl, rfl⟩ := Fault.unexpectedCharacter.inj heq
      exact ⟨rfl, before, hfirst, rfl⟩

/-- A change of faults that concerns none of tokens changes no outcome of tokens. -/
theorem mapError_value_ofTokens {f : Fault → Fault}
    (hf : ∀ {read : List Token} {fault : Fault}, Explains read fault → f fault = fault)
    (read : List Token) :
  (Postfix.value (ofTokens read)).mapError f = Postfix.value (ofTokens read)
  := by
  cases hvalue : Postfix.value (ofTokens read) with
  | ok x => rfl
  | error fault => rw [Except.mapError, hf (explains_of_value_ofTokens hvalue)]

/-- If the readings of two texts differ in a change of faults that concerns none of tokens, so do
their outcomes. -/
theorem value_eq_mapError {f : Fault → Fault}
    (hf : ∀ {read : List Token} {fault : Fault}, Explains read fault → f fault = fault)
    {strict : Bool} {text other : String}
    (h : tokens strict other = (tokens strict text).mapError f) :
  value strict other = (value strict text).mapError f
  := by
  rw [value, value, h]
  cases tokens strict text with
  | error fault => rfl
  | ok read => apply (mapError_value_ofTokens hf read).symm

/-- The outcome of the lenient reading tells of a text how many numbers, operators and
unclosed parentheses it has.  So a text with an unclosed parenthesis has no value, and only
such a text has a stray parenthesis. -/
theorem value_tells_counts (text : String) :
  (∀ x, value false text = .ok x →
      unclosed 0 (scan text) = 0
        ∧ (numbers (scan text)).length = (operators (scan text)).length + 1)
    ∧ (value false text = .error .emptyExpression
      ↔ (numbers (scan text)).length = 0 ∧ (operators (scan text)).length = 0
        ∧ unclosed 0 (scan text) = 0)
    ∧ (∀ count, value false text = .error (.excessOperands count) →
      unclosed 0 (scan text) = 0
        ∧ (numbers (scan text)).length = (operators (scan text)).length + count ∧ 2 ≤ count)
    ∧ (value false text = .error .strayParenthesis → 0 < unclosed 0 (scan text))
    ∧ (∀ op, value false text = .error (.missingOperand op) → op.symbol ∈ text.toList)
    ∧ ∀ c offset, value false text ≠ .error (.unexpectedCharacter c offset)
  := by
  rw [value_false]
  refine ⟨?_, ?_, ?_, ?_, ?_, ?_⟩
  · intro x h
    apply counts_of_reduce_ofTokens (value_eq_ok_iff.mp h)
  · rw [value_eq_emptyExpression_iff, ofTokens_eq_nil_iff]
  · intro count h
    cases explains_of_value_ofTokens h with
    | excessOperands hunclosed hnumbers hcount => exact ⟨hunclosed, hnumbers, hcount⟩
  · intro h
    cases explains_of_value_ofTokens h with
    | strayParenthesis hunclosed => apply hunclosed
  · intro op h
    cases explains_of_value_ofTokens h with
    | missingOperand hop => apply symbol_mem_of_operator_mem_scanChars hop
  · intro c offset h
    cases explains_of_value_ofTokens h

/-- One text for every outcome that tells something: a closing parenthesis too many does not
keep a text from its value, and an unclosed one does. -/
theorem value_tells_counts_by_outcome :
  (value false "(1)+2)" = .ok 3 ∧ unclosed 0 (scan "(1)+2)") = 0
      ∧ (numbers (scan "(1)+2)")).length = (operators (scan "(1)+2)")).length + 1)
    ∧ (value false "x" = .error .emptyExpression ∧ (numbers (scan "x")).length = 0)
    ∧ (value false "2 (3) 4" = .error (.excessOperands 3)
      ∧ (numbers (scan "2 (3) 4")).length = (operators (scan "2 (3) 4")).length + 3)
    ∧ (value false "(2" = .error .strayParenthesis ∧ 0 < unclosed 0 (scan "(2"))
    ∧ value false ")5-" = .error (.missingOperand .subtract) ∧ '-' ∈ ")5-".toList
  := by
  have hvalue : value false "(1)+2)" = .ok 3 := by decide +kernel
  have hempty : value false "x" = .error .emptyExpression := by decide +kernel
  have hexcess : value false "2 (3) 4" = .error (.excessOperands 3) := by decide +kernel
  have hstray : value false "(2" = .error .strayParenthesis := by decide +kernel
  have hmissing : value false ")5-" = .error (.missingOperand .subtract) := by decide +kernel
  obtain ⟨hunclosed, hnumbers⟩ := (value_tells_counts _).1 _ hvalue
  obtain ⟨hnone, -⟩ := (value_tells_counts _).2.1.mp hempty
  obtain ⟨-, hmore, -⟩ := (value_tells_counts _).2.2.1 _ hexcess
  have hopened := (value_tells_counts _).2.2.2.1 hstray
  have hsymbol := (value_tells_counts _).2.2.2.2.1 _ hmissing
  exact ⟨⟨hvalue, hunclosed, hnumbers⟩, ⟨hempty, hnone⟩, ⟨hexcess, hmore⟩, ⟨hstray, hopened⟩,
    hmissing, hsymbol⟩

end DeskCalculator.Expression
