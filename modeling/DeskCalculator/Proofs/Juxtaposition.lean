import DeskCalculator.Proofs.Grammar
import DeskCalculator.Proofs.Outcome
import DeskCalculator.Proofs.Postfix.Splitting

/-!
# Juxtaposed operands

Two operands are juxtaposed if nothing stands between them: a number or a closing
parenthesis is followed by a number or an opening parenthesis.  No sentence of the grammar
has juxtaposed operands, but tokens that have a value may have them, since an operator in a
wrong place makes up for the missing one (`value_of_juxtaposed`).

This is the only way for balanced tokens to have a value and not to be a sentence.  Without
juxtaposed operands there is at most one number more than operators, in the whole and in
every group, and if there is one more then the tokens are a sentence
(`exists_derivation_of_length`).  A value takes one number more, so tokens with a value are a
sentence with that value (`exists_derivation_of_value`) or have juxtaposed operands
(`sentence_or_juxtaposed`).
-/

namespace DeskCalculator.Token

/-- Whether an operand can end with a token. -/
def endsOperand : Token → Bool
  | number _ => true
  | operator _ => false
  | opening => false
  | closing => true

/-- Whether an operand can start with a token. -/
def startsOperand : Token → Bool
  | number _ => true
  | operator _ => false
  | opening => true
  | closing => false

/-- Somewhere among the tokens an operand follows another one. -/
def Juxtaposed (tokens : List Token) : Prop :=
  ∃ before a b after, tokens = before ++ a :: b :: after ∧ a.endsOperand ∧ b.startsOperand

/-- Two tokens that may follow one another: not both at the end and at the start of an
operand. -/
def Follows (a b : Token) : Prop :=
  ¬ (a.endsOperand ∧ b.startsOperand)

theorem not_juxtaposed_iff_isChain {tokens : List Token} :
  ¬ Juxtaposed tokens ↔ tokens.IsChain Follows
  := by
  rw [List.isChain_iff_forall_rel_of_append_cons_cons]
  constructor
  · intro h a b before after htokens hoperands
    apply h ⟨before, a, b, after, htokens, hoperands⟩
  · rintro h ⟨before, a, b, after, htokens, hoperands⟩
    apply h htokens hoperands

instance : DecidableRel Follows :=
  fun a b => inferInstanceAs (Decidable (¬ (a.endsOperand ∧ b.startsOperand)))

instance (tokens : List Token) : Decidable (Juxtaposed tokens) :=
  decidable_of_iff (¬ tokens.IsChain Follows)
    (by rw [← not_juxtaposed_iff_isChain, Classical.not_not])

/-! ### Balanced tokens from left to right -/

/-- Balanced tokens that begin with an opening parenthesis begin with a group. -/
theorem Balanced.exists_group {rest : List Token} (h : Balanced (.opening :: rest)) :
  ∃ inner after, .opening :: rest = .opening :: inner ++ [.closing] ++ after
    ∧ Balanced inner ∧ Balanced after
  := by
  obtain ⟨hsplit, hopened, hclosed⟩ := Postfix.closeGroup_spec h.unclosed_eq_zero
  generalize (Postfix.closeGroup 0 rest).1 = inner at *
  generalize (Postfix.closeGroup 0 rest).2 = after at *
  have hinner : Balanced inner := ⟨hopened, hclosed⟩
  have htokens : .opening :: rest = .opening :: inner ++ [.closing] ++ after := by simp [hsplit]
  rw [htokens] at h
  obtain ⟨-, hafter⟩ := (balanced_append_iff hinner.group.unclosed_eq_zero).mp h
  exact ⟨inner, after, htokens, hinner, hafter⟩

/-- What holds of no tokens and is kept by a number, an operator or a group before them holds
of balanced tokens. -/
@[elab_as_elim]
theorem Balanced.induction {motive : ∀ tokens, Balanced tokens → Prop}
    (nil : ∀ h, motive [] h)
    (number : ∀ x rest hrest h, motive rest hrest → motive (.number x :: rest) h)
    (operator : ∀ op rest hrest h, motive rest hrest → motive (.operator op :: rest) h)
    (group : ∀ inner rest hinner hrest h, motive inner hinner → motive rest hrest →
      motive (.opening :: inner ++ [.closing] ++ rest) h)
    {tokens : List Token} (h : Balanced tokens) :
  motive tokens h
  := by
  -- on the length: the inside of a group and what follows it are no tails of the tokens
  induction hlength : tokens.length using Nat.strong_induction_on generalizing tokens with
  | _ length ih =>
  subst hlength
  cases tokens with
  | nil => apply nil
  | cons token rest =>
    have hshorter : rest.length < (token :: rest).length := by simp
    cases token with
    | number x =>
      obtain ⟨-, hrest⟩ := (@balanced_append_iff [.number x] rest rfl).mp h
      apply number x rest hrest h (ih _ hshorter hrest rfl)
    | operator op =>
      obtain ⟨-, hrest⟩ := (@balanced_append_iff [.operator op] rest rfl).mp h
      apply operator op rest hrest h (ih _ hshorter hrest rfl)
    | opening =>
      obtain ⟨inner, after, htokens, hinner, hafter⟩ := h.exists_group
      have hlength : (Token.opening :: rest).length = inner.length + after.length + 2 := by
        rw [htokens]
        simp only [List.length_append, List.length_cons, List.length_nil]
        omega
      revert h
      rw [htokens]
      intro h
      apply group inner after hinner hafter h (ih _ (by omega) hinner rfl)
        (ih _ (by omega) hafter rfl)
    | closing =>
      have hopened := h.unopened_eq_zero
      simp [unopened] at hopened

end DeskCalculator.Token

namespace DeskCalculator.Grammar

open Postfix Token

variable {α : Type} {category : Category} {leaf : α → Float}

namespace Derivation

/-- No operands are juxtaposed in the sentence of a derivation. -/
theorem not_juxtaposed_tokens (d : Derivation α category) :
  ¬ Juxtaposed (d.tokens leaf)
  := by
  have hoperation : ∀ {left right : List Token} (op : Operator), left.IsChain Follows →
      right.IsChain Follows → (left ++ .operator op :: right).IsChain Follows := by
    intro left right op hleft hright
    apply hleft.append (List.isChain_cons.mpr ⟨_, hright⟩)
    · rintro a - _ ⟨⟩ ⟨-, hop⟩
      cases hop
    · rintro b - ⟨hop, -⟩
      cases hop
  rw [not_juxtaposed_iff_isChain]
  induction d with
  | literal a => apply List.isChain_singleton
  | group inner ih =>
    rw [tokens_group]
    apply List.IsChain.append (List.isChain_cons.mpr ⟨_, ih⟩) (List.isChain_singleton _)
    · rintro a - _ ⟨⟩ ⟨-, hclosing⟩
      cases hclosing
    · rintro b - ⟨hopening, -⟩
      cases hopening
  | ofFactor d ih => apply ih
  | multiplicative left op h right ihleft ihright =>
    rw [tokens_multiplicative]
    apply hoperation op ihleft ihright
  | ofProduct d ih => apply ih
  | additive left op h right ihleft ihright =>
    rw [tokens_additive]
    apply hoperation op ihleft ihright

/-! ### A factor before a derivation -/

/-- A product behind a factor and a multiplicative operator makes a product with them. -/
theorem exists_product_of_factor (factor : Derivation α .factor) {op : Operator}
    (h : op.isMultiplicative) :
    ∀ d : Derivation α .product, ∃ product : Derivation α .product,
      product.tokens leaf = factor.tokens leaf ++ .operator op :: d.tokens leaf
  | .ofFactor d => ⟨.multiplicative (.ofFactor factor) op h d, tokens_multiplicative _ op h d⟩
  | .multiplicative left o ho right => by
    obtain ⟨product, hproduct⟩ := exists_product_of_factor factor h left
    use .multiplicative product o ho right
    rw [tokens_multiplicative, tokens_multiplicative, hproduct, List.append_assoc,
      List.cons_append]

/-- A sum behind a factor and an operator makes a sum with them. -/
theorem exists_sum_of_factor (factor : Derivation α .factor) (op : Operator) :
    ∀ d : Derivation α .sum, ∃ sum : Derivation α .sum,
      sum.tokens leaf = factor.tokens leaf ++ .operator op :: d.tokens leaf
  | .ofProduct d => by
    by_cases h : op.isAdditive
    · use .additive (.ofProduct (.ofFactor factor)) op h d
      apply tokens_additive
    · obtain ⟨product, hproduct⟩ :=
        exists_product_of_factor factor (Operator.isMultiplicative_of_not_isAdditive h) d
      exact ⟨.ofProduct product, hproduct⟩
  | .additive left o ho right => by
    obtain ⟨sum, hsum⟩ := exists_sum_of_factor factor op left
    use .additive sum o ho right
    rw [tokens_additive, tokens_additive, hsum, List.append_assoc, List.cons_append]

end Derivation

/-! ### Counting numbers and operators -/

/-- Tokens that are a sentence of the grammar. -/
def IsSentence (tokens : List Token) : Prop :=
  ∃ d : Derivation Float .sum, d.tokens id = tokens

/-- Tokens in the place of an expression: they have at most one number more than operators,
and are a sentence if they have one more. -/
structure CountedSentence (tokens : List Token) : Prop where
  length_le : (numbers tokens).length ≤ (operators tokens).length + 1
  isSentence : (numbers tokens).length = (operators tokens).length + 1 → IsSentence tokens

/-- Tokens behind an operand: they have at most as many numbers as operators, and complete
every factor to a sentence if they have as many. -/
structure CountedRest (tokens : List Token) : Prop where
  length_le : (numbers tokens).length ≤ (operators tokens).length
  isSentence : (numbers tokens).length = (operators tokens).length →
    ∀ factor : Derivation Float .factor, IsSentence (factor.tokens id ++ tokens)

theorem countedRest_nil :
  CountedRest []
  := by
  constructor
  · simp
  · intro _ factor
    use .ofProduct (.ofFactor factor)
    rw [List.append_nil]
    rfl

/-- An operator before tokens in the place of an expression. -/
theorem CountedSentence.operator_cons {rest : List Token} (h : CountedSentence rest)
    (op : Operator) :
  CountedRest (.operator op :: rest)
  := by
  constructor
  · simpa using h.length_le
  · intro hlength factor
    obtain ⟨d, rfl⟩ := h.isSentence (by simpa using hlength)
    apply Derivation.exists_sum_of_factor factor op d

/-- A number before tokens behind an operand. -/
theorem CountedRest.number_cons {rest : List Token} (h : CountedRest rest) (x : Float) :
  CountedSentence (.number x :: rest)
  := by
  constructor
  · simpa using h.length_le
  · intro hlength
    apply h.isSentence (by simpa using hlength) (.literal x)

/-- A group before tokens behind an operand. -/
theorem CountedRest.group_append {inner rest : List Token} (h : CountedRest rest)
    (hinner : CountedSentence inner) :
  CountedSentence (.opening :: inner ++ [.closing] ++ rest)
  := by
  have hle := h.length_le
  have hinnerLe := hinner.length_le
  constructor
  · simp
    omega
  · intro hlength
    simp at hlength
    obtain ⟨d, rfl⟩ := hinner.isSentence (by omega)
    have hsentence := h.isSentence (by omega) (.group d)
    rwa [Derivation.tokens_group] at hsentence

/-- Balanced tokens without juxtaposed operands are counted as tokens in the place of an
expression, and if they start with no operand also as tokens behind an operand. -/
theorem counted_of_isChain {tokens : List Token} (h : Balanced tokens)
    (hchain : tokens.IsChain Follows) :
  CountedSentence tokens
    ∧ ((∀ token ∈ tokens.head?, ¬ token.startsOperand) → CountedRest tokens)
  := by
  induction h using Balanced.induction with
  | nil _ => exact ⟨⟨by simp, by simp⟩, fun _ => countedRest_nil⟩
  | number x rest _ _ ih =>
    obtain ⟨hhead, hchain⟩ := List.isChain_cons.mp hchain
    have hbehind := (ih hchain).2 fun token htoken hstarts => hhead token htoken ⟨rfl, hstarts⟩
    exact ⟨hbehind.number_cons x, fun hhead => absurd rfl (hhead _ rfl)⟩
  | operator op rest _ _ ih =>
    obtain ⟨-, hchain⟩ := List.isChain_cons.mp hchain
    have hbehind := (ih hchain).1.operator_cons op
    -- with an operator in the place of an operand there are too few numbers for a sentence
    refine ⟨⟨?_, ?_⟩, fun _ => hbehind⟩
    · apply Nat.le_succ_of_le hbehind.length_le
    · intro hlength
      have hle := hbehind.length_le
      omega
  | group inner rest _ _ _ ihinner ihrest =>
    obtain ⟨hgroup, hafter, hboundary⟩ := List.isChain_append.mp hchain
    obtain ⟨-, hinside⟩ := List.isChain_cons.mp hgroup
    have hbehind := (ihrest hafter).2 fun token htoken hstarts =>
      hboundary .closing List.getLast?_concat token htoken ⟨rfl, hstarts⟩
    have hsentence := (ihinner hinside.left_of_append).1
    exact ⟨hbehind.group_append hsentence, fun hhead => absurd rfl (hhead _ rfl)⟩

/-- Balanced tokens without juxtaposed operands that have one number more than operators are
a sentence. -/
theorem exists_derivation_of_length {tokens : List Token} (h : Balanced tokens)
    (hjuxtaposed : ¬ Juxtaposed tokens)
    (hlength : (numbers tokens).length = (operators tokens).length + 1) :
  IsSentence tokens
  := (counted_of_isChain h (not_juxtaposed_iff_isChain.mp hjuxtaposed)).1.isSentence hlength

/-- Balanced tokens with a value and without juxtaposed operands have a derivation with that
value: there is one number more than operators, or they would have none. -/
theorem exists_derivation_of_value {tokens : List Token} {x : Float} (hbalanced : Balanced tokens)
    (hjuxtaposed : ¬ Juxtaposed tokens) (hvalue : Postfix.value (ofTokens tokens) = .ok x) :
  ∃ d : Derivation Float .sum, d.tokens id = tokens ∧ d.value id = .ok x
  := by
  obtain ⟨-, hlength⟩ := counts_of_reduce_ofTokens (value_eq_ok_iff.mp hvalue)
  obtain ⟨d, hd⟩ := exists_derivation_of_length hbalanced hjuxtaposed hlength
  use d, hd
  rw [← d.value_ofTokens, hd, hvalue]

/-- Balanced tokens with a value are a sentence with that value, or have juxtaposed operands
somewhere. -/
theorem sentence_or_juxtaposed {tokens : List Token} {x : Float} (hbalanced : Balanced tokens)
    (hvalue : Postfix.value (ofTokens tokens) = .ok x) :
  (∃ d : Derivation Float .sum, d.tokens id = tokens ∧ d.value id = .ok x)
    ∨ Juxtaposed tokens
  := by
  by_cases hjuxtaposed : Juxtaposed tokens
  · right
    apply hjuxtaposed
  · left
    apply exists_derivation_of_value hbalanced hjuxtaposed hvalue

/-- Both cases arise: a product with a group within a group is a sentence, and two groups with
the operator behind them have their value without being one. -/
theorem sentence_or_juxtaposed_of_groups :
  (Balanced (scan "7*((6)/2)") ∧ Postfix.value (ofTokens (scan "7*((6)/2)")) = .ok 21
      ∧ ∃ d : Derivation Float .sum, d.tokens id = scan "7*((6)/2)" ∧ d.value id = .ok 21)
    ∧ Balanced (scan "(1+2)(3)*") ∧ Postfix.value (ofTokens (scan "(1+2)(3)*")) = .ok 9
    ∧ ((∃ d : Derivation Float .sum, d.tokens id = scan "(1+2)(3)*" ∧ d.value id = .ok 9)
      ∨ Juxtaposed (scan "(1+2)(3)*"))
  := by
  have hnested : Balanced (scan "7*((6)/2)") := ⟨by decide +kernel, by decide +kernel⟩
  have hproduct : Postfix.value (ofTokens (scan "7*((6)/2)")) = .ok 21 := by decide +kernel
  have hsentence := sentence_or_juxtaposed hnested hproduct
  have happart : ¬ Juxtaposed (scan "7*((6)/2)") := by decide +kernel
  have hgroups : Balanced (scan "(1+2)(3)*") := ⟨by decide +kernel, by decide +kernel⟩
  have hvalue : Postfix.value (ofTokens (scan "(1+2)(3)*")) = .ok 9 := by decide +kernel
  exact ⟨⟨hnested, hproduct, hsentence.resolve_right happart⟩, hgroups, hvalue,
    sentence_or_juxtaposed hgroups hvalue⟩

end DeskCalculator.Grammar

namespace DeskCalculator.Expression

open Grammar Postfix Token

/-! ### Texts with a value -/

/-- A text whose tokens are balanced and have no juxtaposed operands has a value exactly if
the tokens are a sentence with that value. -/
theorem value_eq_ok_iff_sentence {text : String} (hbalanced : Balanced (scan text))
    (hjuxtaposed : ¬ Juxtaposed (scan text)) (x : Float) :
  value false text = .ok x
    ↔ ∃ d : Derivation Float .sum, d.tokens id = scan text ∧ d.value id = .ok x
  := by
  rw [value_false]
  constructor
  · intro hvalue
    apply exists_derivation_of_value hbalanced hjuxtaposed hvalue
  · rintro ⟨d, hd, hvalue⟩
    rw [← hd, d.value_ofTokens, hvalue]

/-- The value of a text with a group comes from a sentence. -/
theorem value_eq_ok_iff_sentence_of_group :
  Balanced (scan "(1+2)*3") ∧ ¬ Juxtaposed (scan "(1+2)*3")
    ∧ ∃ d : Derivation Float .sum, d.tokens id = scan "(1+2)*3" ∧ d.value id = .ok 9
  := by
  have hbalanced : Balanced (scan "(1+2)*3") := ⟨by decide +kernel, by decide +kernel⟩
  have hjuxtaposed : ¬ Juxtaposed (scan "(1+2)*3") := by decide +kernel
  have hvalue : value false "(1+2)*3" = .ok 9 := by decide +kernel
  exact ⟨hbalanced, hjuxtaposed, (value_eq_ok_iff_sentence hbalanced hjuxtaposed 9).mp hvalue⟩

/-- With juxtaposed operands a text has a value though its tokens are balanced and no
sentence: the operator behind both operands is taken for the one between them. -/
theorem value_of_juxtaposed :
  Balanced (scan "1 2 +") ∧ value false "1 2 +" = .ok 3 ∧ ¬ IsSentence (scan "1 2 +")
  := by
  refine ⟨⟨by decide +kernel, by decide +kernel⟩, by decide +kernel, ?_⟩
  rintro ⟨d, hd⟩
  have hjuxtaposed : Juxtaposed (scan "1 2 +") := by decide +kernel
  rw [← hd] at hjuxtaposed
  apply d.not_juxtaposed_tokens hjuxtaposed

end DeskCalculator.Expression
