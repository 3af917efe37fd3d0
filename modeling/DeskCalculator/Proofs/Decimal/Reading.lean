import DeskCalculator.Proofs.Decimal.Layout
import DeskCalculator.Proofs.Decimal.Shortest
import DeskCalculator.Proofs.Token.Writing

/-!
# Reading numbers

A decimal is read from digits, with a point among them or not, and from an exponent behind them
if there is one.  A double is read from a sign and a decimal, or from the name of an infinity or
of the double that is not a number.

What a layout writes for a decimal is read as a decimal of the same value
(`read?_decimalChars`), so that the text of a finite double is read as this double
(`read?_text_of_finite`).  The texts of results are read back for all doubles
(`read?_text_result`), therefore no two doubles share one (`text_result_injective`).
-/

namespace DeskCalculator

open Grammar

/-- The decimal that a literal writes. -/
def Grammar.Literal.decimal (a : Literal) : Decimal :=
  Decimal.ofDigits a.whole (a.fraction.getD [])

/-- The digits of a literal, without its point. -/
def Grammar.Literal.digits (a : Literal) : List Char :=
  a.whole ++ a.fraction.getD []

/-- A literal with one digit before the point, and with a point only if digits stand behind it. -/
structure Grammar.Literal.IsMantissa (a : Literal) : Prop where
  length_whole : a.whole.length = 1
  fraction_ne_nil : a.fraction ≠ some []

namespace Decimal

/-! ### Readers -/

/-- The number that a text of digits writes. -/
def natural? (chars : List Char) : Option Nat :=
  if chars ≠ [] ∧ ∀ c ∈ chars, c.isDigit then
    some (Nat.ofDigitChars 10 chars 0)
  else
    none

/-- The exponent that digits write, possibly behind a sign. -/
def exponent? : List Char → Option Int
  | '-' :: digits => (natural? digits).map fun n : Nat => -(n : Int)
  | '+' :: digits => (natural? digits).map fun n : Nat => (n : Int)
  | digits => (natural? digits).map fun n : Nat => (n : Int)

/-- The decimal times a power of ten. -/
def scaled (d : Decimal) (e : Int) : Decimal :=
  ⟨d.digits, d.exponent + e⟩

/-- The decimal that a text writes: digits with at most one point, and possibly an exponent. -/
def read? (chars : List Char) : Option Decimal :=
  let (whole, fraction, rest) := leadingDigits chars
  if whole = [] ∧ fraction = [] then
    none
  else
    match rest with
    | [] => some (ofDigits whole fraction)
    | c :: after =>
      if c = 'e' ∨ c = 'E' then
        (exponent? after).map (ofDigits whole fraction).scaled
      else
        none

/-! ### Reading digits and exponents -/

theorem isDigit_of_mem_zeros_append {zeros n : Nat} {c : Char}
    (h : c ∈ List.replicate zeros '0' ++ Nat.toDigits 10 n) :
  c.isDigit
  := by
  obtain hzero | hdigit := List.mem_append.mp h
  · apply isDigit_of_mem_replicate hzero
  · apply isDigit_of_mem_toDigits_ten hdigit

theorem ofDigitChars_zeros_append (zeros n : Nat) :
  Nat.ofDigitChars 10 (List.replicate zeros '0' ++ Nat.toDigits 10 n) 0 = n
  := by
  rw [Nat.ofDigitChars_append, Nat.ofDigitChars_replicate_zero, Nat.mul_zero,
    Nat.ofDigitChars_ten_toDigits]

theorem ofDigitChars_append_zeros (n zeros : Nat) :
  Nat.ofDigitChars 10 (Nat.toDigits 10 n ++ List.replicate zeros '0') 0 = n * 10 ^ zeros
  := by
  rw [Nat.ofDigitChars_append, Nat.ofDigitChars_replicate_zero, Nat.ofDigitChars_ten_toDigits,
    Nat.mul_comm]

/-- Digits write a number, also with zeros before them. -/
theorem natural?_zeros_append (zeros n : Nat) :
  natural? (List.replicate zeros '0' ++ Nat.toDigits 10 n) = some n
  := by
  have hne : List.replicate zeros '0' ++ Nat.toDigits 10 n ≠ [] :=
    List.append_ne_nil_of_right_ne_nil _ Nat.toDigits_ne_nil
  rw [natural?, if_pos ⟨hne, fun c hc => isDigit_of_mem_zeros_append hc⟩,
    ofDigitChars_zeros_append]

/-- An exponent is read back. -/
theorem exponent?_exponentChars (width : Nat) (e : Int) :
  exponent? (exponentChars width e) = some e
  := by
  simp only [exponentChars]
  split
  · next hneg =>
    rw [List.cons_append, exponent?, natural?_zeros_append, Option.map_some]
    congr 1
    omega
  · next hneg =>
    rw [List.cons_append, exponent?, natural?_zeros_append, Option.map_some]
    congr 1
    omega

/-! ### Reading literals -/

theorem read?_text (a : Literal) :
  read? a.text = some a.decimal
  := by
  have hends : a.EndsBefore [] := by
    rintro _ ⟨⟩
  have hdigits := leadingDigits_text_append a hends
  rw [List.append_nil] at hdigits
  rw [read?, hdigits, Literal.decimal]
  apply if_neg
  exact fun h => a.whole_ne_nil h.1

theorem read?_text_exponent (a : Literal) (width : Nat) (e : Int) :
  read? (a.text ++ 'e' :: exponentChars width e)
    = some (a.decimal.scaled e)
  := by
  have hends : a.EndsBefore ('e' :: exponentChars width e) := by
    rintro _ ⟨⟩
    exact ⟨by decide, fun _ => by decide⟩
  rw [read?, leadingDigits_text_append a hends]
  simp only [exponent?_exponentChars, true_or, if_true, Option.map_some]
  apply if_neg
  exact fun h => a.whole_ne_nil h.1

/-! ### Reading what a layout writes -/

/-- The value stays the same with more digits and as many places fewer. -/
theorem sameValue_of_eq {d d' : Decimal} (k : Nat) (hdigits : d.digits = d'.digits * 10 ^ k)
    (hexponent : d.exponent = d'.exponent - k) :
  SameValue d d'
  := by
  have hpowers : k + d.exponent.toNat + (-d'.exponent).toNat
      = d'.exponent.toNat + (-d.exponent).toNat := by
    omega
  rw [SameValue, num, num, den, den, hdigits, Nat.mul_assoc, Nat.mul_assoc, Nat.mul_assoc,
    ← Nat.pow_add, ← Nat.pow_add, ← Nat.pow_add, ← Nat.add_assoc, hpowers]

theorem leading_add_one (d : Decimal) :
  d.leading + 1 = d.exponent + (Nat.toDigits 10 d.digits).length
  := by
  rw [leading]
  omega

variable {keepsPoint : Bool} {d : Decimal}

/-- A decimal with the point before all digits is written as a literal. -/
theorem exists_literal_of_before (h : d.leading + 1 ≤ 0) :
  ∃ a : Literal, d.positionalChars keepsPoint = a.text ∧ a.decimal.SameValue d
  := by
  have hleading := d.leading_add_one
  have hzero : ∀ c ∈ ['0'], c.isDigit := fun c hc => isDigit_of_mem_replicate (n := 1) hc
  have hfraction : ∀ fraction ∈
      some (List.replicate (-(d.leading + 1)).toNat '0' ++ Nat.toDigits 10 d.digits),
      ∀ c ∈ fraction, c.isDigit := by
    rintro _ ⟨⟩ c hc
    apply isDigit_of_mem_zeros_append hc
  use ⟨['0'], _, List.cons_ne_nil _ _, hzero, hfraction⟩
  constructor
  · rw [positionalChars]
    apply if_pos h
  · apply sameValue_of_eq 0
    · rw [Nat.pow_zero, Nat.mul_one]
      apply ofDigitChars_zeros_append ((-(d.leading + 1)).toNat + 1)
    · simp only [Literal.decimal, ofDigits, Option.getD_some, List.length_append,
        List.length_replicate]
      omega

/-- A decimal with the point behind all digits is written as a literal. -/
theorem exists_literal_of_behind (hbefore : ¬ d.leading + 1 ≤ 0)
    (h : (Nat.toDigits 10 d.digits).length ≤ d.leading + 1) :
  ∃ a : Literal, d.positionalChars keepsPoint = a.text ∧ a.decimal.SameValue d
  := by
  have hleading := d.leading_add_one
  have hne : Nat.toDigits 10 d.digits ++ List.replicate d.exponent.toNat '0' ≠ [] :=
    List.append_ne_nil_of_left_ne_nil Nat.toDigits_ne_nil _
  have hwhole : ∀ c ∈ Nat.toDigits 10 d.digits ++ List.replicate d.exponent.toNat '0',
      c.isDigit := by
    intro c hc
    obtain hc | hc := List.mem_append.mp hc
    · apply isDigit_of_mem_toDigits_ten hc
    · apply isDigit_of_mem_replicate hc
  have htext : d.positionalChars keepsPoint
      = Nat.toDigits 10 d.digits ++ List.replicate d.exponent.toNat '0'
        ++ (if keepsPoint then ['.', '0'] else []) := by
    rw [positionalChars]
    simp only [if_neg hbefore, if_pos h]
  rw [htext]
  cases keepsPoint with
  | false =>
    use ⟨_, none, hne, hwhole, by simp⟩
    constructor
    · apply List.append_nil
    · apply sameValue_of_eq d.exponent.toNat
      · rw [← ofDigitChars_append_zeros]
        simp only [Literal.decimal, ofDigits, Option.getD_none, List.append_nil]
      · simp only [Literal.decimal, ofDigits, Option.getD_none, List.length_nil]
        omega
  | true =>
    have hfraction : ∀ fraction ∈ some ['0'], ∀ c ∈ fraction, c.isDigit := by
      rintro _ ⟨⟩ c hc
      apply isDigit_of_mem_replicate (n := 1) hc
    use ⟨_, some ['0'], hne, hwhole, hfraction⟩
    constructor
    · rfl
    · apply sameValue_of_eq (d.exponent.toNat + 1)
      · rw [← ofDigitChars_append_zeros, List.replicate_succ', ← List.append_assoc]
        rfl
      · simp only [Literal.decimal, ofDigits, Option.getD_some, List.length_singleton]
        omega

/-- A decimal with the point among the digits is written as a literal. -/
theorem exists_literal_of_among (hbefore : ¬ d.leading + 1 ≤ 0)
    (h : ¬ (Nat.toDigits 10 d.digits).length ≤ d.leading + 1) :
  ∃ a : Literal, d.positionalChars keepsPoint = a.text ∧ a.decimal.SameValue d
  := by
  have hleading := d.leading_add_one
  have hne : (Nat.toDigits 10 d.digits).take (d.leading + 1).toNat ≠ [] := by
    rw [ne_eq, List.take_eq_nil_iff, not_or]
    exact ⟨by omega, Nat.toDigits_ne_nil⟩
  have hwhole : ∀ c ∈ (Nat.toDigits 10 d.digits).take (d.leading + 1).toNat, c.isDigit :=
    fun c hc => isDigit_of_mem_toDigits_ten (List.mem_of_mem_take hc)
  have hfraction : ∀ fraction ∈ some ((Nat.toDigits 10 d.digits).drop (d.leading + 1).toNat),
      ∀ c ∈ fraction, c.isDigit := by
    rintro _ ⟨⟩ c hc
    apply isDigit_of_mem_toDigits_ten (List.mem_of_mem_drop hc)
  use ⟨_, _, hne, hwhole, hfraction⟩
  constructor
  · rw [positionalChars]
    simp only [if_neg hbefore, if_neg h]
    rfl
  · apply sameValue_of_eq 0
    · simp only [Literal.decimal, ofDigits, Option.getD_some, List.take_append_drop, Nat.pow_zero,
        Nat.mul_one]
      apply Nat.ofDigitChars_ten_toDigits
    · simp only [Literal.decimal, ofDigits, Option.getD_some, List.length_drop]
      omega

/-- A decimal without an exponent is written as a literal. -/
theorem exists_literal_positionalChars (keepsPoint : Bool) (d : Decimal) :
  ∃ a : Literal, d.positionalChars keepsPoint = a.text ∧ a.decimal.SameValue d
  := by
  by_cases hbefore : d.leading + 1 ≤ 0
  · apply exists_literal_of_before hbefore
  · by_cases hbehind : (Nat.toDigits 10 d.digits).length ≤ d.leading + 1
    · apply exists_literal_of_behind hbefore hbehind
    · apply exists_literal_of_among hbefore hbehind

theorem scaled_eq {d d' : Decimal} {e : Int} (hdigits : d.digits = d'.digits)
    (hexponent : d.exponent + e = d'.exponent) :
  d.scaled e = d'
  := by
  rw [scaled, hdigits, hexponent]

/-- A decimal with an exponent is written as a mantissa with its digits before the exponent. -/
theorem exists_literal_scientificChars (width : Nat) (d : Decimal) :
  ∃ a : Literal, d.scientificChars width = a.text ++ 'e' :: exponentChars width d.leading
    ∧ a.decimal.scaled d.leading = d
    ∧ a.IsMantissa
    ∧ a.digits = Nat.toDigits 10 d.digits
  := by
  have hdigits : ∀ c ∈ Nat.toDigits 10 d.digits, c.isDigit := fun c hc =>
    isDigit_of_mem_toDigits_ten hc
  have hvalue : Nat.ofDigitChars 10 (Nat.toDigits 10 d.digits) 0 = d.digits :=
    Nat.ofDigitChars_ten_toDigits
  have hne : Nat.toDigits 10 d.digits ≠ [] := Nat.toDigits_ne_nil
  have hleading := d.leading_add_one
  rw [scientificChars]
  generalize Nat.toDigits 10 d.digits = digits at hdigits hvalue hne hleading ⊢
  obtain ⟨digit, others, rfl⟩ := List.exists_cons_of_ne_nil hne
  cases others with
  | nil =>
    refine ⟨⟨[digit], none, hne, hdigits, by simp⟩, rfl, ?_, ⟨rfl, by simp⟩, rfl⟩
    apply scaled_eq hvalue
    simp only [Literal.decimal, ofDigits, Option.getD_none, List.length_nil,
      List.length_singleton] at hleading ⊢
    omega
  | cons next rest =>
    obtain ⟨hdigit, hrest⟩ := List.forall_mem_cons.mp hdigits
    have hfraction : ∀ fraction ∈ some (next :: rest), ∀ c ∈ fraction, c.isDigit := by
      rintro _ ⟨⟩
      apply hrest
    refine ⟨⟨[digit], some (next :: rest), List.cons_ne_nil _ _, by simpa using hdigit, hfraction⟩,
      rfl, ?_, ⟨rfl, by simp⟩, rfl⟩
    apply scaled_eq hvalue
    simp only [Literal.decimal, ofDigits, Option.getD_some, List.length_cons] at hleading ⊢
    omega

end Decimal

namespace Layout

/-- What a layout writes for a decimal is read as a decimal of the same value. -/
theorem read?_decimalChars (layout : Layout) (d : Decimal) :
  ∃ d', Decimal.read? (layout.decimalChars d) = some d' ∧ d'.SameValue d
  := by
  rw [decimalChars]
  split
  · obtain ⟨a, htext, hsame⟩ := d.exists_literal_positionalChars layout.keepsPoint
    rw [htext, Decimal.read?_text]
    exact ⟨_, rfl, hsame⟩
  · obtain ⟨a, htext, hscaled, -, -⟩ := d.exists_literal_scientificChars layout.exponentWidth
    rw [htext, Decimal.read?_text_exponent, hscaled]
    exact ⟨_, rfl, rfl⟩

end Layout

namespace Binary64

/-! ### Reading doubles -/

/-- The bits of the magnitude that a text without a sign writes. -/
def magnitude? (chars : List Char) : Option Nat :=
  match Decimal.read? chars with
  | some d => some d.toFloat.toBits.toNat
  | none =>
    let name := chars.map Char.toLower
    if name = "inf".toList ∨ name = "infinity".toList then
      some infinityBits
    else if name = "nan".toList then
      some (infinityBits + Nat.pow 2 51)
    else
      none

/-- The double of a sign and of the bits of a magnitude. -/
def ofMagnitude (negative : Bool) (bits : Nat) : Float :=
  Float.ofBits (signedBits negative bits).toUInt64

/-- The double that a text writes. -/
def read? : List Char → Option Float
  | '-' :: chars => (magnitude? chars).map (ofMagnitude true)
  | '+' :: chars => (magnitude? chars).map (ofMagnitude false)
  | chars => (magnitude? chars).map (ofMagnitude false)

variable {x : Float} {negative : Bool} {significand scale bits : Nat} {chars : List Char}
  {d : Decimal}

theorem ofMagnitude_eq (h : x.toBits.toNat = signedBits negative bits) :
  ofMagnitude negative bits = x
  := by
  rw [ofMagnitude, ← h, Nat.toUInt64, UInt64.ofNat_toNat, Float.ofBits_toBits]

/-- A text with the sign of a number before it, which has one if it is negative. -/
def signed (negative : Bool) (chars : List Char) : List Char :=
  if negative then '-' :: chars else chars

/-- A decimal with a sign is read as the double nearest to it, with this sign. -/
theorem read?_signed (negative : Bool) (h : Decimal.read? chars = some d) :
  read? (signed negative chars) = some (ofMagnitude negative (nearestBits d.units d.den))
  := by
  have hmagnitude : magnitude? chars = some (nearestBits d.units d.den) := by
    rw [magnitude?, h, ← d.toNat_toBits_toFloat]
  cases negative with
  | false =>
    rw [signed, if_neg Bool.false_ne_true, read?.eq_def]
    split
    · cases h
    · cases h
    · rw [hmagnitude]
      rfl
  | true =>
    rw [signed, if_pos rfl, read?, hmagnitude]
    rfl

/-- A decimal with a sign is read as a finite double only if it is nearest to this double. -/
theorem nearestBits_of_read?_signed (hx : contents x = .finite negative significand scale)
    (h : Decimal.read? chars = some d) (hread : read? (signed negative chars) = some x) :
  nearestBits d.units d.den = scale * 2 ^ 52 + significand
  := by
  rw [read?_signed negative h] at hread
  have hbits := toNat_toBits_ofSignedBits negative (nearestBits_le d.units d.den)
  rw [← ofMagnitude, Option.some.inj hread, toNat_toBits_of_finite hx] at hbits
  apply (Nat.add_left_cancel hbits).symm

end Binary64

namespace Layout

open Binary64

variable {x : Float} {negative : Bool} {significand scale : Nat}

/-- The text of a finite double is that of its shortest decimal, with its sign. -/
theorem toList_text_of_finite (layout : Layout)
    (h : contents x = .finite negative significand scale) :
  (layout.text x).toList
    = signed negative (layout.decimalChars (Decimal.shortest layout.tie significand scale))
  := by
  rw [text, h]
  apply String.toList_ofList

/-- The text of a finite double is read as this double. -/
theorem read?_text_of_finite (layout : Layout)
    (h : contents x = .finite negative significand scale) :
  read? (layout.text x).toList = some x
  := by
  obtain ⟨d, hread, hsame⟩ :=
    layout.read?_decimalChars (Decimal.shortest layout.tie significand scale)
  rw [layout.toList_text_of_finite h, read?_signed negative hread,
    Decimal.nearestBits_congr hsame, Decimal.nearestBits_shortest (isCanonical_of_contents h),
    ofMagnitude_eq (toNat_toBits_of_finite h)]

/-- The plain text of a finite double without a sign is a literal that has this double as its
value. -/
theorem exists_literal_text_plain (h : IsFiniteUnsigned x) :
  ∃ a : Literal, (plain.text x).toList = a.text ∧ a.toFloat = x
  := by
  obtain ⟨significand, scale, h⟩ := h
  obtain ⟨a, htext, hsame⟩ :=
    (Decimal.shortest plain.tie significand scale).exists_literal_positionalChars plain.keepsPoint
  use a
  constructor
  · rw [plain.toList_text_of_finite h]
    apply htext
  · apply Float.toBits_inj.mp
    apply UInt64.toNat_inj.mp
    rw [toNat_toBits_of_finite h, ← Decimal.nearestBits_shortest (isCanonical_of_contents h),
      ← Decimal.nearestBits_congr hsame, ← Decimal.toNat_toBits_toFloat]
    apply (Nat.zero_add _).symm

/-- The texts of results are read back. -/
theorem read?_text_result (x : Float) :
  read? (result.text x).toList = some x
  := by
  cases hx : contents x with
  | finite negative significand scale => apply result.read?_text_of_finite hx
  | infinite negative =>
    have htext : read? (if negative then "-inf" else "inf").toList
        = some (ofMagnitude negative infinityBits) := by
      cases negative <;> rfl
    rw [text, hx]
    apply htext.trans
    rw [ofMagnitude_eq (toNat_toBits_of_infinite hx)]
  | undefined =>
    have htext : read? "nan".toList = some (ofMagnitude false (infinityBits + Nat.pow 2 51)) := rfl
    have hnan : contents (ofMagnitude false (infinityBits + Nat.pow 2 51)) = .undefined := by
      decide +kernel
    rw [text, hx]
    apply htext.trans
    rw [contents_injective (hnan.trans hx.symm)]

/-- No two doubles have the same text as results. -/
theorem text_result_injective :
  Function.Injective result.text
  := by
  intro x y h
  apply Option.some.inj
  rw [← read?_text_result x, ← read?_text_result y, h]

end Layout

end DeskCalculator
