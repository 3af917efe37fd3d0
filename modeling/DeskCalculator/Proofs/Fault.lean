import DeskCalculator.Fault
import DeskCalculator.Proofs.Decimal.Layout
import DeskCalculator.Text.Blank
import Mathlib.Logic.Function.Basic

/-!
# Wordings of faults

The wording of a fault tells which fault it is (`message_injective`).  It stands on one line: the
only white space in it are spaces, unless the fault is a character that is white space itself
(`isSpaced_message`).
-/

namespace DeskCalculator

theorem toDigits_ten_injective :
  Function.Injective (Nat.toDigits 10)
  := by
  apply Function.LeftInverse.injective (g := fun digits => Nat.ofDigitChars 10 digits 0)
  exact fun _ => Nat.ofDigitChars_ten_toDigits

namespace Operator

theorem symbol_injective :
  Function.Injective symbol
  := by
  intro op op' h
  apply Option.some.inj
  rw [← ofSymbol?_symbol op, ← ofSymbol?_symbol op', h]

end Operator

namespace Fault

/-! ### Characters of a wording -/

theorem toList_message_missingOperand (op : Operator) :
  (missingOperand op).message.toList
    = "operator '".toList ++ [op.symbol] ++ "' is missing an operand".toList
  := by
  unfold message
  rw [String.toList_append, String.toList_append, Char.toString, String.toList_singleton]

theorem toList_message_excessOperands (count : Nat) :
  (excessOperands count).message.toList
    = "expression leaves ".toList ++ Nat.toDigits 10 count ++ " values instead of one".toList
  := by
  unfold message
  rw [String.toList_append, String.toList_append, Nat.toString_eq_repr, Nat.toList_repr]

theorem toList_message_unexpectedCharacter (c : Char) (offset : Nat) :
  (unexpectedCharacter c offset).message.toList
    = "unexpected character '".toList ++ [c] ++ "' at offset ".toList ++ Nat.toDigits 10 offset
  := by
  unfold message
  rw [String.toList_append, String.toList_append, String.toList_append, Char.toString,
    String.toList_singleton, Nat.toString_eq_repr, Nat.toList_repr]

/-- The twelfth character of the wording of a fault, which tells the kinds of faults apart. -/
def mark : Fault → Char
  | divisionByZero => ' '
  | missingOperand _ => '\''
  | excessOperands _ => 'l'
  | emptyExpression => 'i'
  | strayParenthesis => 'p'
  | unexpectedCharacter _ _ => 'c'

theorem getElem?_message (fault : Fault) :
  fault.message.toList[11]? = some fault.mark
  := by
  cases fault with
  | divisionByZero => rfl
  | missingOperand op =>
    rw [toList_message_missingOperand]
    rfl
  | excessOperands count =>
    rw [toList_message_excessOperands, List.append_assoc, List.getElem?_append_left (by decide)]
    rfl
  | emptyExpression => rfl
  | strayParenthesis => rfl
  | unexpectedCharacter c offset =>
    rw [toList_message_unexpectedCharacter, List.append_assoc, List.append_assoc,
      List.getElem?_append_left (by decide)]
    rfl

/-- The wording of a fault tells which fault it is. -/
theorem message_injective :
  Function.Injective message
  := by
  intro fault fault' h
  have hmark : fault.mark = fault'.mark := by
    apply Option.some.inj
    rw [← getElem?_message, ← getElem?_message, h]
  have hchars := congrArg String.toList h
  cases fault with
  | divisionByZero =>
    cases fault' with
    | divisionByZero => rfl
    | _ => simp [mark] at hmark
  | missingOperand op =>
    cases fault' with
    | missingOperand op' =>
      rw [toList_message_missingOperand, toList_message_missingOperand] at hchars
      have hop := List.append_cancel_left (List.append_cancel_right hchars)
      rw [Operator.symbol_injective (List.head_eq_of_cons_eq hop)]
    | _ => simp [mark] at hmark
  | excessOperands count =>
    cases fault' with
    | excessOperands count' =>
      rw [toList_message_excessOperands, toList_message_excessOperands] at hchars
      have hcount := List.append_cancel_left (List.append_cancel_right hchars)
      rw [toDigits_ten_injective hcount]
    | _ => simp [mark] at hmark
  | emptyExpression =>
    cases fault' with
    | emptyExpression => rfl
    | _ => simp [mark] at hmark
  | strayParenthesis =>
    cases fault' with
    | strayParenthesis => rfl
    | _ => simp [mark] at hmark
  | unexpectedCharacter c offset =>
    cases fault' with
    | unexpectedCharacter c' offset' =>
      rw [toList_message_unexpectedCharacter, toList_message_unexpectedCharacter] at hchars
      simp only [List.append_assoc, List.singleton_append] at hchars
      obtain ⟨rfl, hrest⟩ := List.cons.inj (List.append_cancel_left hchars)
      rw [toDigits_ten_injective (List.append_cancel_left hrest)]
    | _ => simp [mark] at hmark

/-! ### White space in a wording -/

/-- The only white space in a text are spaces. -/
def IsSpaced (chars : List Char) : Prop :=
  ∀ c ∈ chars, Text.isBlank c → c = ' '

-- the instance for lists, by name: there are only finitely many characters, but too many to try
instance (chars : List Char) : Decidable (IsSpaced chars) :=
  List.decidableBAll (fun c => Text.isBlank c → c = ' ') chars

theorem IsSpaced.append {before after : List Char} (hbefore : IsSpaced before)
    (hafter : IsSpaced after) :
  IsSpaced (before ++ after)
  := List.forall_mem_append.mpr ⟨hbefore, hafter⟩

theorem isSpaced_singleton {c : Char} (h : ¬ Text.isBlank c) :
  IsSpaced [c]
  := by
  intro d hd hblank
  obtain rfl := List.mem_singleton.mp hd
  exact absurd hblank h

theorem isSpaced_toDigits (n : Nat) :
  IsSpaced (Nat.toDigits 10 n)
  := by
  intro c hc hblank
  rw [Text.isBlank_of_isDigit (isDigit_of_mem_toDigits_ten hc)] at hblank
  cases hblank

/-- The wording of a fault stands on one line, unless the fault is a character that is white
space itself. -/
theorem isSpaced_message {fault : Fault}
    (h : ∀ c offset, fault = .unexpectedCharacter c offset → ¬ Text.isBlank c) :
  IsSpaced fault.message.toList
  := by
  cases fault with
  | divisionByZero => decide
  | missingOperand op =>
    rw [toList_message_missingOperand]
    apply IsSpaced.append _ (by decide)
    apply IsSpaced.append (by decide)
    apply isSpaced_singleton
    cases op <;> decide
  | excessOperands count =>
    rw [toList_message_excessOperands]
    apply IsSpaced.append _ (by decide)
    apply IsSpaced.append (by decide) (isSpaced_toDigits count)
  | emptyExpression => decide
  | strayParenthesis => decide
  | unexpectedCharacter c offset =>
    rw [toList_message_unexpectedCharacter]
    apply IsSpaced.append _ (isSpaced_toDigits offset)
    apply IsSpaced.append _ (by decide)
    apply IsSpaced.append (by decide) (isSpaced_singleton (h c offset rfl))

end Fault

end DeskCalculator

