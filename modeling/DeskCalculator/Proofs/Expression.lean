import DeskCalculator.Expression
import DeskCalculator.Proofs.Token.Writing

/-!
# Expressions of the grammar

A text that writes a derivation of the grammar has the value of the derivation: for the
strict reading if the gaps are white space, and for the lenient reading if they have no
character of a token.  Such a text is never an invalid expression.
-/

namespace DeskCalculator.Expression

open Grammar

variable {strict : Bool} {d : Derivation Literal .sum} {text : String}

/-- The tokens of a text that writes a derivation are those of the derivation. -/
theorem tokens_of_writes (h : Writes (separates strict) d.sentence text.toList) :
  tokens strict text = .ok (d.tokens Literal.toFloat)
  := by
  cases strict with
  | false =>
    rw [tokens, if_neg Bool.false_ne_true, Token.scan, scanChars_of_writes h d.isChain_sentence,
      Derivation.tokens]
  | true =>
    rw [tokens, if_pos rfl, Token.scanStrict, Token.scanCharsStrict,
      readTokens_of_writes h d.isChain_sentence, Derivation.tokens]

/-- A text that writes a derivation has the value of the derivation.  Its only fault is a
division by zero, which arises exactly if the evaluation of the derivation meets a divisor
equal to zero. -/
theorem value_of_writes (h : Writes (separates strict) d.sentence text.toList) :
  value strict text = d.value Literal.toFloat
    ∧ ∀ fault, value strict text = .error fault
      ↔ fault = .divisionByZero ∧ d.MeetsZero Literal.toFloat
  := by
  have hvalue : value strict text = d.value Literal.toFloat := by
    rw [value, tokens_of_writes h, ← d.value_ofTokens]
    rfl
  constructor
  · apply hvalue
  · intro fault
    rw [hvalue]
    apply d.value_eq_error_iff

/-- The derivation of a quotient whose divisor is the negative zero. -/
def quotientByZero : Derivation Literal .sum :=
  let zero : Derivation Literal .factor :=
    .literal ⟨['0'], none, by simp, List.forall_mem_singleton.mpr rfl, by simp⟩
  let one : Derivation Literal .factor :=
    .literal ⟨['1'], some [], by simp, List.forall_mem_singleton.mpr rfl, by simp⟩
  let negative : Derivation Literal .sum :=
    .additive (.ofProduct (.ofFactor zero)) .subtract rfl (.ofFactor one)
  let divisor : Derivation Literal .sum :=
    .ofProduct (.multiplicative (.ofFactor zero) .multiply rfl (.group negative))
  .ofProduct (.multiplicative (.ofFactor one) .divide rfl
    (.group (.ofProduct (.ofFactor (.group divisor)))))

/-- The value of a text that writes this quotient is refused. -/
theorem value_quotientByZero :
  Writes (separates true) quotientByZero.sentence "1. / ((0*( 0-1.)))".toList
    ∧ value true "1. / ((0*( 0-1.)))" = .error .divisionByZero
  := by
  have h : Writes (separates true) quotientByZero.sentence "1. / ((0*( 0-1.)))".toList := by
    have hblank : ∀ c ∈ [' '], separates true c := List.forall_mem_singleton.mpr rfl
    have hnone : ∀ c ∈ [], separates true c := List.forall_mem_nil _
    apply Writes.cons hnone
    apply Writes.cons hblank
    apply Writes.cons hblank
    iterate 4 apply Writes.cons hnone
    apply Writes.cons hblank
    iterate 5 apply Writes.cons hnone
    apply Writes.nil hnone
  constructor
  · apply h
  · apply ((value_of_writes h).2 .divisionByZero).mpr
    refine ⟨rfl, Or.inr ⟨⟨_, rfl⟩, Or.inr ⟨rfl, _, rfl, Or.inr ?_⟩⟩⟩
    decide +kernel

end DeskCalculator.Expression
