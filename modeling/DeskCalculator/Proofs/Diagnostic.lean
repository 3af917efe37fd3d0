import DeskCalculator.Diagnostic
import DeskCalculator.Proofs.Calculator
import DeskCalculator.Proofs.Outcome

/-!
# Diagnostics of replies

A fault that names a character comes from the strict reading, which refuses the first character
of the message that is neither white space nor part of a token.  The message is read as it is and
not in its lower-case form, so the label of the diagnostic covers this character of the message;
other faults have no diagnostic (`ofFault?_of_respond`).

A diagnostic can also be made of an expression and a fault that is not its own.  Its label starts
within the expression or at its end, but it need not end there (`label_within_iff`).
-/

namespace DeskCalculator

namespace Diagnostic

/-- The label of a diagnostic covers a text within the expression. -/
structure Covers (d : Diagnostic) (covered : String) : Prop where
  /-- The label stands where the text stands. -/
  exists_eq_append : ∃ before after : String, d.expression = before ++ covered ++ after
    ∧ before.utf8ByteSize = d.offset
  utf8ByteSize_eq : covered.utf8ByteSize = d.length

namespace Covers

variable {d : Diagnostic} {covered : String}

/-- A label that covers a text ends within the expression. -/
theorem offset_add_length_le (h : d.Covers covered) :
  d.offset + d.length ≤ d.expression.utf8ByteSize
  := by
  obtain ⟨⟨before, after, hexpression, hoffset⟩, hlength⟩ := h
  rw [hexpression, String.utf8ByteSize_append, String.utf8ByteSize_append, ← hoffset, ← hlength]
  apply Nat.le_add_right

/-- A label that covers a text starts between two characters. -/
theorem isValid_offset (h : d.Covers covered) :
  String.Pos.Raw.IsValid d.expression ⟨d.offset⟩
  := by
  obtain ⟨⟨before, after, hexpression, hoffset⟩, -⟩ := h
  apply String.Pos.Raw.isValid_iff_exists_append.mpr
  use before, covered ++ after
  rw [hexpression, String.append_assoc, ← hoffset]
  exact ⟨rfl, rfl⟩

/-- A label that covers a text ends between two characters. -/
theorem isValid_offset_add_length (h : d.Covers covered) :
  String.Pos.Raw.IsValid d.expression ⟨d.offset + d.length⟩
  := by
  obtain ⟨⟨before, after, hexpression, hoffset⟩, hlength⟩ := h
  apply String.Pos.Raw.isValid_iff_exists_append.mpr
  use before ++ covered, after, hexpression
  rw [← hoffset, ← hlength, ← String.utf8ByteSize_append]
  rfl

end Covers

/-- The diagnostic of a reply. -/
theorem ofFault?_of_respond (calculator : Calculator) (message : String) :
  (∀ c offset, (calculator.respond message).1 = .error (.unexpectedCharacter c offset) →
      ∃ d, ofFault? message (.unexpectedCharacter c offset) = some d
        ∧ d.expression = message ∧ d.offset = offset ∧ d.length = c.utf8Size
        ∧ d.Covers (String.singleton c)
        ∧ d.offset + d.length ≤ message.utf8ByteSize
        ∧ String.Pos.Raw.IsValid message ⟨d.offset⟩
        ∧ String.Pos.Raw.IsValid message ⟨d.offset + d.length⟩)
    ∧ ∀ fault, (calculator.respond message).1 = .error fault →
      (∀ c offset, fault ≠ .unexpectedCharacter c offset) → ofFault? message fault = none
  := by
  constructor
  · intro c offset hreply
    obtain ⟨-, chars, hfirst, rfl⟩ :=
      Expression.exists_firstRefused_of_value (Calculator.value_of_reply_error hreply)
    obtain ⟨before, rfl⟩ : ∃ before : String, before.toList = chars :=
      ⟨String.ofList chars, String.toList_ofList⟩
    obtain ⟨after, hmessage⟩ := hfirst.exists_eq_append_singleton
    rw [Token.byteLength_toList]
    have hcovers : Covers ⟨message, c, before.utf8ByteSize⟩ (String.singleton c) := by
      constructor
      · use before, after, hmessage
      · apply String.utf8ByteSize_singleton
    have hoffset : min before.utf8ByteSize message.utf8ByteSize = before.utf8ByteSize := by
      apply Nat.min_eq_left
      exact Nat.le_trans (Nat.le_add_right _ _) hcovers.offset_add_length_le
    use ⟨message, c, before.utf8ByteSize⟩
    refine ⟨?_, rfl, rfl, rfl, hcovers, hcovers.offset_add_length_le, hcovers.isValid_offset,
      hcovers.isValid_offset_add_length⟩
    rw [ofFault?, hoffset]
  · intro fault _ hother
    cases fault with
    | unexpectedCharacter c offset => exact absurd rfl (hother c offset)
    | _ => rfl

/-- The letter behind wide blanks is shorter than its lower-case form, and the label covers it as it
stands in the message.  A missing operand has no diagnostic. -/
theorem ofFault?_of_respond_behind_wide_blanks :
  (Calculator.respond { greetings := ["ø"], strict := true } "\u3000(2 +\u00a0İ)").1
      = .error (.unexpectedCharacter 'İ' 9)
    ∧ (∃ d, ofFault? "\u3000(2 +\u00a0İ)" (.unexpectedCharacter 'İ' 9) = some d
      ∧ d.offset = 9 ∧ d.length = 2 ∧ d.Covers "İ")
    ∧ ∃ fault, (Calculator.respond { greetings := ["ø"], strict := true } "\u3000(2 +\u00a0)").1
        = .error fault
      ∧ ofFault? "\u3000(2 +\u00a0)" fault = none
  := by
  have hrefused : (Calculator.respond { greetings := ["ø"], strict := true }
      "\u3000(2 +\u00a0İ)").1 = .error (.unexpectedCharacter 'İ' 9) := by
    decide +kernel
  have hmissing : (Calculator.respond { greetings := ["ø"], strict := true }
      "\u3000(2 +\u00a0)").1 = .error (.missingOperand .add) := by
    decide +kernel
  obtain ⟨d, hsome, -, hoffset, hlength, hcovers, -⟩ := (ofFault?_of_respond _ _).1 'İ' 9 hrefused
  have hnone := (ofFault?_of_respond _ _).2 _ hmissing fun c offset heq => by cases heq
  exact ⟨hrefused, ⟨d, hsome, hoffset, hlength, hcovers⟩, _, hmissing, hnone⟩

/-! ### Faults that need not be those of the expression -/

/-- A refused character ends within the expression whose evaluation refuses it. -/
theorem offset_add_utf8Size_le_of_value {strict : Bool} {expression : String} {c : Char}
    {offset : Nat} (h : Expression.value strict expression
      = .error (.unexpectedCharacter c offset)) :
  offset + c.utf8Size ≤ expression.utf8ByteSize
  := by
  obtain ⟨-, before, hfirst, rfl⟩ := Expression.exists_firstRefused_of_value h
  obtain ⟨after, htext⟩ := hfirst.exists_eq_append
  rw [← Token.byteLength_toList, htext, Token.byteLength_append, Token.byteLength_cons]
  omega

/-- The label for any character and any offset.  It starts within the expression or at its end,
since the offset is bounded; its length is not, so it may end up to four bytes behind the
expression.  It stays within exactly if the character would fit at the offset, which is the case
for the fault of the expression itself. -/
theorem label_within_iff (expression : String) (c : Char) (offset : Nat) :
  ∃ d, ofFault? expression (.unexpectedCharacter c offset) = some d
    ∧ d.expression = expression ∧ d.character = c ∧ d.length = c.utf8Size
    ∧ d.offset ≤ expression.utf8ByteSize
    ∧ d.offset + d.length ≤ expression.utf8ByteSize + 4
    ∧ (d.offset + d.length ≤ expression.utf8ByteSize
      ↔ offset + c.utf8Size ≤ expression.utf8ByteSize)
    ∧ ∀ strict, Expression.value strict expression = .error (.unexpectedCharacter c offset) →
      d.offset + d.length ≤ expression.utf8ByteSize
  := by
  have hpos : 0 < c.utf8Size := c.utf8Size_pos
  have hfour : c.utf8Size ≤ 4 := c.utf8Size_le_four
  have hfits : min offset expression.utf8ByteSize + c.utf8Size ≤ expression.utf8ByteSize
      ↔ offset + c.utf8Size ≤ expression.utf8ByteSize := by
    omega
  refine ⟨_, rfl, rfl, rfl, rfl, Nat.min_le_right _ _, ?_, hfits, ?_⟩
  · apply Nat.add_le_add (Nat.min_le_right _ _) hfour
  · intro strict hvalue
    apply hfits.mpr (offset_add_utf8Size_le_of_value hvalue)

/-- The refused letter at the very end of a text is the last one that its label can cover. -/
theorem label_within_iff_of_last_letter :
  Expression.value true "2 *\u2003é" = .error (.unexpectedCharacter 'é' 6)
    ∧ ∃ d, ofFault? "2 *\u2003é" (.unexpectedCharacter 'é' 6) = some d
      ∧ d.offset + d.length ≤ "2 *\u2003é".utf8ByteSize
  := by
  have hvalue : Expression.value true "2 *\u2003é" = .error (.unexpectedCharacter 'é' 6) := by
    decide +kernel
  obtain ⟨d, hsome, -, -, -, -, -, -, hwithin⟩ := label_within_iff "2 *\u2003é" 'é' 6
  exact ⟨hvalue, d, hsome, hwithin true hvalue⟩

/-- Not every label stays within its expression: a label in the empty text does not. -/
theorem not_forall_label_within :
  ¬ ∀ (expression : String) (c : Char) (offset : Nat) (d : Diagnostic),
    ofFault? expression (.unexpectedCharacter c offset) = some d →
      d.offset + d.length ≤ expression.utf8ByteSize
  := by
  intro h
  have hempty : 0 + '?'.utf8Size ≤ "".utf8ByteSize := h "" '?' 0 ⟨"", '?', 0⟩ rfl
  revert hempty
  decide

end Diagnostic

end DeskCalculator
