import DeskCalculator.Proofs.Decimal.Closest
import DeskCalculator.Proofs.Decimal.Reading

/-!
# Texts of results

The text of a result is read back as the double that it stands for.  If it has an exponent, it is
the shortest decimal of the double, written with one digit before the point: no text with an
exponent that is read as this double has fewer digits before the exponent, or as many and a decimal
nearer to the double (`text_result_read_back`).
-/

namespace DeskCalculator

open Grammar

/-! ### Numbers of digits -/

/-- Digits write a number below the power of ten with as many zeros. -/
theorem ofDigitChars_lt {chars : List Char} (h : ∀ c ∈ chars, c.isDigit) :
  Nat.ofDigitChars 10 chars 0 < 10 ^ chars.length
  := by
  induction chars with
  | nil => decide
  | cons c rest ih =>
    obtain ⟨hc, hrest⟩ := List.forall_mem_cons.mp h
    obtain ⟨-, hle⟩ : 48 ≤ c.toNat ∧ c.toNat ≤ 57 := Char.isDigit_iff_toNat.mp hc
    have hzero : '0'.toNat = 48 := rfl
    have hlt := ih hrest
    rw [Nat.ofDigitChars_cons, Nat.ofDigitChars_eq_ofDigitChars_zero, List.length_cons,
      Nat.pow_succ, hzero]
    have hfirst : 10 ^ rest.length * (10 * 0 + (c.toNat - 48)) ≤ 10 ^ rest.length * 9 :=
      Nat.mul_le_mul_left _ (by omega)
    omega

namespace Grammar.Literal

theorem isDigit_of_mem_digits {a : Literal} {c : Char} (h : c ∈ a.digits) :
  c.isDigit
  := by
  obtain hwhole | hfraction := List.mem_append.mp h
  · apply a.isDigit_of_mem_whole c hwhole
  · cases hdigits : a.fraction with
    | none =>
      rw [hdigits] at hfraction
      cases hfraction
    | some digits =>
      rw [hdigits] at hfraction
      apply a.isDigit_of_mem_fraction digits hdigits c hfraction

/-- A literal has at least as many digits as the decimal that it writes. -/
theorem length_decimal_le (a : Literal) :
  a.decimal.length ≤ a.digits.length
  := by
  have hpos : 0 < a.digits.length := by
    rw [digits, List.length_append]
    exact Nat.add_pos_left (List.length_pos_iff.mpr a.whole_ne_nil) _
  apply (Nat.length_toDigits_le_iff (by decide) hpos).mpr
  apply ofDigitChars_lt
  exact fun c hc => isDigit_of_mem_digits hc

/-- A literal has no letters. -/
theorem e_not_mem_text (a : Literal) :
  'e' ∉ a.text
  := by
  intro h
  obtain hdigit | hpoint := a.isDigit_or_eq_point_of_mem_text h
  · revert hdigit
    decide
  · revert hpoint
    decide

end Grammar.Literal

namespace Layout

open Binary64

variable {x : Float}

/-- A result with an exponent is finite, and it is written as its shortest decimal with an exponent
of at least two digits. -/
theorem toList_text_result_of_mem (h : 'e' ∈ (result.text x).toList) :
  ∃ negative significand scale, contents x = .finite negative significand scale
    ∧ (result.text x).toList
      = signed negative ((Decimal.shortest result.tie significand scale).scientificChars 2)
  := by
  cases hx : contents x with
  | undefined =>
    have hname : 'e' ∉ "nan".toList := by decide
    rw [text, hx] at h
    exact absurd h hname
  | infinite negative =>
    have hname : 'e' ∉ (if negative then "-inf" else "inf").toList := by
      cases negative <;> decide
    rw [text, hx] at h
    exact absurd h hname
  | finite negative significand scale =>
    refine ⟨negative, significand, scale, rfl, ?_⟩
    rw [result.toList_text_of_finite hx] at h ⊢
    generalize Decimal.shortest result.tie significand scale = d at h ⊢
    by_cases hpositional : result.isPositional d
    · obtain ⟨a, htext, -⟩ := d.exists_literal_positionalChars result.keepsPoint
      have hmem : 'e' ∈ a.text := by
        rw [decimalChars, if_pos hpositional, htext] at h
        cases negative with
        | false => apply h
        | true => apply List.mem_of_ne_of_mem (by decide) h
      exact absurd hmem a.e_not_mem_text
    · rw [decimalChars, if_neg hpositional]
      rfl

/-- Results are read back, and therefore no two of them have the same text.  A text with an exponent
writes the shortest decimal of the result: a mantissa that is read as the result with any exponent
has more digits, or it has as many and its decimal is no nearer to the result.  The exponent has a
sign and at least two digits, and a zero before its first digit only if it has no second one. -/
theorem text_result_read_back :
  (∀ x, Binary64.read? (result.text x).toList = some x)
    ∧ (∀ x y, x ≠ y → result.text x ≠ result.text y)
    ∧ ∀ x, 'e' ∈ (result.text x).toList →
      ∃ (negative : Bool) (significand scale : Nat) (mantissa : Literal) (e : Int)
          (digits : List Char),
        contents x = .finite negative significand scale
          ∧ (result.text x).toList
            = signed negative (mantissa.text ++ 'e' :: (if e < 0 then '-' else '+') :: digits)
          ∧ mantissa.IsMantissa
          ∧ mantissa.decimal.scaled e = Decimal.shortest result.tie significand scale
          ∧ (∀ (other : Literal) (width : Nat) (f : Int),
            Binary64.read? (signed negative (other.text ++ 'e' :: Decimal.exponentChars width f))
                = some x →
              mantissa.digits.length < other.digits.length
                ∨ mantissa.digits.length = other.digits.length
                  ∧ (mantissa.decimal.scaled e).distance significand scale
                    ≤ (other.decimal.scaled f).distance significand scale)
          ∧ ((Nat.toDigits 10 e.natAbs).length < 2 →
            digits.length = 2
              ∧ ∃ zeros, digits = List.replicate zeros '0' ++ Nat.toDigits 10 e.natAbs)
          ∧ (2 ≤ (Nat.toDigits 10 e.natAbs).length → digits = Nat.toDigits 10 e.natAbs)
  := by
  refine ⟨read?_text_result, fun x y hne h => hne (text_result_injective h), ?_⟩
  intro x h
  obtain ⟨negative, significand, scale, hx, htext⟩ := toList_text_result_of_mem h
  obtain ⟨mantissa, hscientific, hscaled, hmantissa, hdigits⟩ :=
    (Decimal.shortest result.tie significand scale).exists_literal_scientificChars 2
  rw [hscientific] at htext
  generalize (Decimal.shortest result.tie significand scale).leading = e at htext hscaled
  refine ⟨negative, significand, scale, mantissa, e,
    List.replicate (2 - (Nat.toDigits 10 e.natAbs).length) '0' ++ Nat.toDigits 10 e.natAbs,
    hx, htext, hmantissa, hscaled, ?_, ?_, ?_⟩
  · intro other width f hread
    have hbits := nearestBits_of_read?_signed hx (Decimal.read?_text_exponent other width f) hread
    have hcanonical := isCanonical_of_contents hx
    have hlength := other.length_decimal_le
    have hfewest : (Decimal.shortest result.tie significand scale).length
        ≤ (other.decimal.scaled f).length := Decimal.length_shortest_le hcanonical hbits
    rw [hdigits, hscaled]
    obtain hmore | heq := Nat.lt_or_eq_of_le (Nat.le_trans hfewest hlength)
    · exact Or.inl hmore
    · right
      use heq
      apply Decimal.distance_shortest_le hcanonical hbits
      apply Nat.le_trans hlength (Nat.le_of_eq heq.symm)
  · intro hfewer
    constructor
    · rw [List.length_append, List.length_replicate]
      omega
    · exact ⟨_, rfl⟩
  · intro hmore
    rw [Nat.sub_eq_zero_of_le hmore]
    rfl

/-- A negative result with a negative exponent of one digit: it is read back, it is not written as
its opposite, and a mantissa with one digit is read as another result with any exponent. -/
theorem text_result_read_back_of_negative :
  result.text (-2.5e-7) = "-2.5e-07"
    ∧ Binary64.read? "-2.5e-07".toList = some (-2.5e-7)
    ∧ result.text 2.5e-7 ≠ "-2.5e-07"
    ∧ ∀ (other : Literal) (width : Nat) (f : Int), other.digits.length = 1 →
      Binary64.read? (signed true (other.text ++ 'e' :: Decimal.exponentChars width f))
        ≠ some (-2.5e-7)
  := by
  have htext : result.text (-2.5e-7) = "-2.5e-07" := by decide +kernel
  have hopposite : (-2.5e-7 : Float) ≠ 2.5e-7 := by decide +kernel
  have hcontents : contents (-2.5e-7) = .finite true 4722366482869645 1000 := by decide +kernel
  obtain ⟨hread, hdiffer, hexponent⟩ := text_result_read_back
  have hback := hread (-2.5e-7)
  have hother := hdiffer _ _ hopposite
  obtain ⟨negative, significand, scale, mantissa, e, digits, hx, -, -, hscaled, hshortest, -⟩ :=
    hexponent (-2.5e-7) (by rw [htext]; decide)
  obtain ⟨rfl, rfl, rfl⟩ := Contents.finite.inj (hcontents.symm.trans hx)
  have hlength : mantissa.decimal.length = 2 := by
    apply (congrArg Decimal.length hscaled).trans
    decide +kernel
  rw [htext] at hback hother
  refine ⟨htext, hback, hother.symm, ?_⟩
  intro other width f hone hthis
  have hmantissa := mantissa.length_decimal_le
  obtain hmore | ⟨hsame, -⟩ := hshortest other width f hthis <;> omega

end Layout

end DeskCalculator
