import DeskCalculator.Proofs.Postfix.Conservation
import DeskCalculator.Proofs.Postfix.Reduction

/-!
# The shape of tokens

Lists of tokens have the same shape if they differ in the values of their numbers only.  The
conversion looks at no value, so it keeps the shape (`ofTokens_alike`).  The reduction looks at
a value only to refuse a division, so postfix expressions of one shape have matching outcomes,
as long as neither is a division by zero (`value_alike`).
-/

namespace DeskCalculator

/-- Two tokens that are the same, or both numbers. -/
inductive Token.Alike : Token → Token → Prop where
  | number (x y : Float) : Alike (.number x) (.number y)
  | operator (op : Operator) : Alike (.operator op) (.operator op)
  | opening : Alike .opening .opening
  | closing : Alike .closing .closing

theorem Token.Alike.refl (token : Token) :
  Alike token token
  := by
  cases token with
  | number x => apply Alike.number
  | operator op => apply Alike.operator
  | opening => apply Alike.opening
  | closing => apply Alike.closing

theorem Token.forall₂_alike_refl (tokens : List Token) :
  List.Forall₂ Alike tokens tokens
  := List.forall₂_same.mpr fun token _ => Alike.refl token

/-- Two outcomes that match: related values, the same fault, or a division by zero in at least
one of them. -/
inductive Matches {α : Type} (related : α → α → Prop) : Except Fault α → Except Fault α → Prop where
  | ok {a b : α} (h : related a b) : Matches related (.ok a) (.ok b)
  | fault (fault : Fault) : Matches related (.error fault) (.error fault)
  | divisionLeft (other : Except Fault α) : Matches related (.error .divisionByZero) other
  | divisionRight (other : Except Fault α) : Matches related other (.error .divisionByZero)

namespace Matches

variable {α β : Type} {related : α → α → Prop} {related' : β → β → Prop}
  {outcome other : Except Fault α}

/-- What goes on from matching outcomes in a matching way has matching outcomes. -/
theorem bind {next next' : α → Except Fault β} (h : Matches related outcome other)
    (hnext : ∀ a b, related a b → Matches related' (next a) (next' b)) :
  Matches related' (outcome >>= next) (other >>= next')
  := by
  cases h with
  | ok h => apply hnext _ _ h
  | fault fault => apply Matches.fault
  | divisionLeft other => apply Matches.divisionLeft
  | divisionRight other => apply Matches.divisionRight

theorem map {f g : α → β} (h : Matches related outcome other)
    (hmap : ∀ a b, related a b → related' (f a) (g b)) :
  Matches related' (outcome.map f) (other.map g)
  := by
  apply h.bind
  intro a b hab
  apply Matches.ok (hmap a b hab)

/-- Matching outcomes without a division by zero are two values or the same fault. -/
theorem values_or_fault (h : Matches related outcome other)
    (houtcome : outcome ≠ .error .divisionByZero) (hother : other ≠ .error .divisionByZero) :
  (∃ a b, outcome = .ok a ∧ other = .ok b)
    ∨ ∃ fault, outcome = .error fault ∧ other = .error fault
  := by
  cases h with
  | @ok a b h => exact Or.inl ⟨a, b, rfl, rfl⟩
  | fault fault => exact Or.inr ⟨fault, rfl, rfl⟩
  | divisionLeft other => exact absurd rfl houtcome
  | divisionRight other => exact absurd rfl hother

end Matches

namespace Postfix

open Token

variable {token other : Token} {tokens others : List Token} {operands operands' : List Float}

/-! ### The conversion -/

/-- Tokens that are alike have the same effect on the stack and send alike tokens to the
output. -/
theorem step_alike (stack : List Pending) (h : Alike token other) :
  List.Forall₂ Alike (step stack token).1 (step stack other).1
    ∧ (step stack token).2 = (step stack other).2
  := by
  cases h with
  | number x y => exact ⟨.cons (.number x y) .nil, rfl⟩
  | operator op => exact ⟨forall₂_alike_refl _, rfl⟩
  | opening => exact ⟨.nil, rfl⟩
  | closing => exact ⟨forall₂_alike_refl _, rfl⟩

theorem convert_alike (stack : List Pending) (h : List.Forall₂ Alike tokens others) :
  List.Forall₂ Alike (convert stack tokens) (convert stack others)
  := by
  induction h generalizing stack with
  | nil => apply forall₂_alike_refl
  | cons htoken _ ih =>
    obtain ⟨houtput, hstack⟩ := step_alike stack htoken
    rw [convert_cons, convert_cons, hstack]
    apply List.rel_append houtput (ih _)

/-- The conversion keeps the shape of tokens. -/
theorem ofTokens_alike (h : List.Forall₂ Alike tokens others) :
  List.Forall₂ Alike (ofTokens tokens) (ofTokens others)
  := convert_alike [] h

/-! ### The reduction -/

/-- Two stacks of equally many operands, compared place by place. -/
def SameHeight : List Float → List Float → Prop :=
  List.Forall₂ fun _ _ => True

/-- Operations with the same operator have a value each, or one divides by zero. -/
theorem apply_matches (op : Operator) (a b a' b' : Float) :
  Matches (fun _ _ => True) (op.apply a b) (op.apply a' b')
  := by
  cases hvalue : op.apply a b with
  | error fault =>
    obtain ⟨rfl, -⟩ := Operator.apply_eq_error_iff.mp hvalue
    apply Matches.divisionLeft
  | ok x =>
    cases hvalue' : op.apply a' b' with
    | error fault =>
      obtain ⟨rfl, -⟩ := Operator.apply_eq_error_iff.mp hvalue'
      apply Matches.divisionRight
    | ok y => apply Matches.ok trivial

/-- A step of a reduction depends on the number of operands only, but for divisions by zero. -/
theorem reduceToken_alike (htoken : Alike token other) (h : SameHeight operands operands') :
  Matches SameHeight (reduceToken operands token) (reduceToken operands' other)
  := by
  cases htoken with
  | number x y => apply Matches.ok (.cons trivial h)
  | operator op =>
    cases h with
    | nil => apply Matches.fault
    | cons _ h =>
      cases h with
      | nil => apply Matches.fault
      | cons _ h =>
        apply (apply_matches op _ _ _ _).map
        intro _ _ _
        apply List.Forall₂.cons trivial h
  | opening => apply Matches.fault
  | closing => apply Matches.fault

theorem reduce_alike (htokens : List.Forall₂ Alike tokens others)
    (h : SameHeight operands operands') :
  Matches SameHeight (reduce operands tokens) (reduce operands' others)
  := by
  induction htokens generalizing operands operands' with
  | nil => apply Matches.ok h
  | cons htoken _ ih =>
    rw [reduce_cons, reduce_cons]
    apply (reduceToken_alike htoken h).bind
    intro _ _ hnext
    apply ih hnext

/-- Postfix expressions of the same shape have matching outcomes. -/
theorem value_alike (h : List.Forall₂ Alike tokens others) :
  Matches (fun _ _ => True) (value tokens) (value others)
  := by
  apply (reduce_alike h .nil).bind
  intro operands operands' hheight
  have hlength : operands.length = operands'.length := hheight.length_eq
  cases hheight with
  | nil => apply Matches.fault
  | cons _ hheight =>
    cases hheight with
    | nil => apply Matches.ok trivial
    | cons _ hheight =>
      simp only [hlength]
      apply Matches.fault

/-! ### Malformed tokens -/

/-- Whether tokens have a value, and which fault they have otherwise, does not depend on their
numbers, as long as there is no division by zero.  Tokens of the same shape are converted to
tokens of the same shape, each with its own numbers in their order. -/
theorem outcome_ofTokens_alike (h : List.Forall₂ Alike tokens others) :
  (List.Forall₂ Alike (ofTokens tokens) (ofTokens others)
      ∧ numbers (ofTokens tokens) = numbers tokens ∧ numbers (ofTokens others) = numbers others)
    ∧ (value (ofTokens tokens) ≠ .error .divisionByZero →
      value (ofTokens others) ≠ .error .divisionByZero →
      (∃ x y, value (ofTokens tokens) = .ok x ∧ value (ofTokens others) = .ok y)
        ∨ ∃ fault, value (ofTokens tokens) = .error fault ∧ value (ofTokens others) = .error fault)
  := by
  have hshape := ofTokens_alike h
  constructor
  · exact ⟨hshape, numbers_ofTokens tokens, numbers_ofTokens others⟩
  · intro htokens hothers
    apply (value_alike hshape).values_or_fault htokens hothers

/-- A quotient between operators that miss an operand. -/
def strandedQuotient (x y : Float) : List Token :=
  [.opening, .number x, .operator .divide, .number y, .closing, .operator .multiply,
    .operator .add]

/-- The quotient of the undefined number and infinity, and that of the negative zero and minus
one. -/
theorem outcome_ofTokens_alike_of_strandedQuotient :
  List.Forall₂ Alike (strandedQuotient (0 / 0) (1 / 0)) (strandedQuotient (-0) (-1))
    ∧ List.Forall₂ Alike (ofTokens (strandedQuotient (0 / 0) (1 / 0)))
      (ofTokens (strandedQuotient (-0) (-1)))
    ∧ value (ofTokens (strandedQuotient (0 / 0) (1 / 0))) = .error (.missingOperand .multiply)
    ∧ value (ofTokens (strandedQuotient (-0) (-1))) = .error (.missingOperand .multiply)
  := by
  have halike : List.Forall₂ Alike (strandedQuotient (0 / 0) (1 / 0))
      (strandedQuotient (-0) (-1)) := by
    apply List.Forall₂.cons .opening
    apply List.Forall₂.cons (.number _ _)
    apply List.Forall₂.cons (.operator _)
    apply List.Forall₂.cons (.number _ _)
    apply forall₂_alike_refl
  have hvalue : value (ofTokens (strandedQuotient (0 / 0) (1 / 0)))
      = .error (.missingOperand .multiply) := by
    decide +kernel
  have htokens : value (ofTokens (strandedQuotient (0 / 0) (1 / 0)))
      ≠ .error .divisionByZero := by
    rw [hvalue]
    simp
  have hothers : value (ofTokens (strandedQuotient (-0) (-1))) ≠ .error .divisionByZero := by
    decide +kernel
  obtain ⟨⟨hshape, -⟩, houtcome⟩ := outcome_ofTokens_alike halike
  obtain ⟨x, y, hx, -⟩ | ⟨fault, hfault, hfault'⟩ := houtcome htokens hothers
  · rw [hvalue] at hx
    cases hx
  · rw [hvalue] at hfault
    cases hfault
    exact ⟨halike, hshape, hvalue, hfault'⟩

end Postfix

end DeskCalculator
