import DeskCalculator.Decimal.Layout

/-!
# Characters of numbers

The text of a double is a numeral, made of digits, points, signs and the letter of the
exponent, or it is one of the texts that a layout has for the doubles that are no finite
numbers (`isNumeral_or_eq_of_text`).
-/

namespace DeskCalculator

theorem isDigit_of_mem_replicate {n : Nat} {c : Char} (hc : c ∈ List.replicate n '0') :
  c.isDigit
  := by
  rw [List.eq_of_mem_replicate hc]
  rfl

/-- The decimal digits of a number are digits. -/
theorem isDigit_of_mem_toDigits_ten {n : Nat} {c : Char} (hc : c ∈ Nat.toDigits 10 n) :
  c.isDigit
  := Nat.isDigit_of_mem_toDigits (by decide) (by decide) hc

/-- Characters of which numbers are made: digits, points, the letter of the exponent and the
two signs. -/
def IsNumeral (chars : List Char) : Prop :=
  ∀ c ∈ chars, c.isDigit ∨ c ∈ ['.', 'e', '+', '-']

namespace IsNumeral

variable {before after : List Char} {c : Char}

theorem nil :
  IsNumeral []
  := List.forall_mem_nil _

theorem append (hbefore : IsNumeral before) (hafter : IsNumeral after) :
  IsNumeral (before ++ after)
  := List.forall_mem_append.mpr ⟨hbefore, hafter⟩

/-- A point, the letter of the exponent or a sign before a numeral. -/
theorem mark_cons (hc : c ∈ ['.', 'e', '+', '-']) (hafter : IsNumeral after) :
  IsNumeral (c :: after)
  := List.forall_mem_cons.mpr ⟨Or.inr hc, hafter⟩

theorem digit_cons (hc : c.isDigit) (hafter : IsNumeral after) :
  IsNumeral (c :: after)
  := List.forall_mem_cons.mpr ⟨Or.inl hc, hafter⟩

theorem of_isDigit (h : ∀ c ∈ before, c.isDigit) :
  IsNumeral before
  := fun c hc => Or.inl (h c hc)

theorem replicate (n : Nat) :
  IsNumeral (List.replicate n '0')
  := of_isDigit fun _ hc => isDigit_of_mem_replicate hc

end IsNumeral

namespace Decimal

theorem isNumeral_positionalChars (keepsPoint : Bool) (d : Decimal) :
  IsNumeral (d.positionalChars keepsPoint)
  := by
  have hdigits : ∀ c ∈ Nat.toDigits 10 d.digits, c.isDigit := fun c hc =>
    isDigit_of_mem_toDigits_ten hc
  simp only [positionalChars]
  split
  · apply IsNumeral.append _ (.of_isDigit hdigits)
    apply IsNumeral.digit_cons rfl
    apply IsNumeral.mark_cons (by decide) (.replicate _)
  · split
    · apply ((IsNumeral.of_isDigit hdigits).append (.replicate _)).append
      split
      · apply IsNumeral.mark_cons (by decide)
        apply IsNumeral.digit_cons rfl .nil
      · exact .nil
    · apply IsNumeral.append
      · apply IsNumeral.of_isDigit fun c hc => hdigits c (List.mem_of_mem_take hc)
      · apply IsNumeral.mark_cons (by decide)
        apply IsNumeral.of_isDigit fun c hc => hdigits c (List.mem_of_mem_drop hc)

theorem isNumeral_exponentChars (width : Nat) (e : Int) :
  IsNumeral (exponentChars width e)
  := by
  simp only [exponentChars]
  apply IsNumeral.append _ (.of_isDigit fun c hc => isDigit_of_mem_toDigits_ten hc)
  split <;> exact .mark_cons (by decide) (.replicate _)

theorem isNumeral_scientificChars (width : Nat) (d : Decimal) :
  IsNumeral (d.scientificChars width)
  := by
  have hdigits : ∀ c ∈ Nat.toDigits 10 d.digits, c.isDigit := fun c hc =>
    isDigit_of_mem_toDigits_ten hc
  simp only [scientificChars]
  apply IsNumeral.append
  · split
    · exact .nil
    · next digit h =>
      rw [h] at hdigits
      apply IsNumeral.of_isDigit hdigits
    · next digit rest _ h =>
      rw [h] at hdigits
      obtain ⟨hdigit, hrest⟩ := List.forall_mem_cons.mp hdigits
      apply IsNumeral.digit_cons hdigit
      apply IsNumeral.mark_cons (by decide) (.of_isDigit hrest)
  · apply IsNumeral.mark_cons (by decide) (isNumeral_exponentChars width _)

end Decimal

namespace Layout

theorem isNumeral_decimalChars (layout : Layout) (d : Decimal) :
  IsNumeral (layout.decimalChars d)
  := by
  rw [decimalChars]
  split
  · apply d.isNumeral_positionalChars
  · apply d.isNumeral_scientificChars

/-- The text of a double is a numeral, or one of the texts of the layout for the others. -/
theorem isNumeral_or_eq_of_text (layout : Layout) (x : Float) :
  IsNumeral (layout.text x).toList
    ∨ layout.text x ∈ [layout.undefined, layout.infinity.1, layout.infinity.2]
  := by
  rw [text]
  split
  · simp
  · split <;> simp
  · next negative significand scale _ =>
    left
    rw [String.toList_ofList]
    have hdecimal := layout.isNumeral_decimalChars
      (Decimal.shortest layout.tie significand scale)
    split
    · apply IsNumeral.mark_cons (by decide) hdecimal
    · apply hdecimal

end Layout

end DeskCalculator
