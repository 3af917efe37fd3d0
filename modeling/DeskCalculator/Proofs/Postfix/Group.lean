import DeskCalculator.Proofs.Postfix.Reduction
import DeskCalculator.Proofs.Postfix.Repair

/-!
# Groups and their values

A group that has a value can be replaced by its value in any tokens, also in tokens that
are no expression: neither the stack of the conversion nor that of the reduction shows the
difference.
-/

namespace DeskCalculator.Postfix

open Token

variable {group : List Token} {x : Float}

/-- Tokens that have a value leave no parenthesis open. -/
theorem unclosed_eq_zero_of_value (h : value (ofTokens group) = .ok x) :
  unclosed 0 group = 0
  := by
  apply Decidable.byContradiction
  intro hunclosed
  apply opening_not_mem_of_reduce (value_eq_ok_iff.mp h)
  apply (opening_mem_ofTokens_iff group).mpr hunclosed

/-- The postfix order of tokens around a part that leaves the stack as it is. -/
theorem ofTokens_around {part output : List Token}
    (h : ∀ stack, run stack part = (output, stack)) (before after : List Token) :
  ofTokens (before ++ part ++ after)
    = (run [] before).1 ++ output ++ convert (run [] before).2 after
  := by
  rw [ofTokens, convert_append, run_append, h]

/-- A group that has a value on its own can be replaced by its value. -/
theorem value_ofTokens_group (hopened : unopened 0 group = 0)
    (hvalue : value (ofTokens group) = .ok x) (before after : List Token) :
  value (ofTokens (before ++ [.opening] ++ group ++ [.closing] ++ after))
    = value (ofTokens (before ++ [.number x] ++ after))
  := by
  have hgroup : Balanced group := ⟨hopened, unclosed_eq_zero_of_value hvalue⟩
  have htokens : before ++ [.opening] ++ group ++ [.closing] ++ after
      = before ++ (.opening :: group ++ [.closing]) ++ after := by simp
  have hnumber : ∀ stack, run stack [.number x] = ([.number x], stack) := by
    intro stack
    rfl
  rw [htokens, ofTokens_around (run_group hgroup), ofTokens_around hnumber]
  apply value_append_of_value hvalue

/-- The inner group of `) ( 1 / ( 2 - ( 2 ) ) ) +` has the value of `2 - 2`. -/
theorem value_ofTokens_group_within_no_expression :
  value (ofTokens [.closing, .opening, .number 1, .operator .divide, .opening, .number 2,
      .operator .subtract, .opening, .number 2, .closing, .closing, .closing, .operator .add])
    = value (ofTokens [.closing, .opening, .number 1, .operator .divide, .number (2 - 2),
      .closing, .operator .add])
  := by
  have hopened : unopened 0 [.number 2, .operator .subtract, .opening, .number 2, .closing] = 0 :=
    rfl
  have hvalue : value (ofTokens [.number 2, .operator .subtract, .opening, .number 2, .closing])
      = .ok (2 - 2) := rfl
  apply value_ofTokens_group hopened hvalue [.closing, .opening, .number 1, .operator .divide]

end DeskCalculator.Postfix
