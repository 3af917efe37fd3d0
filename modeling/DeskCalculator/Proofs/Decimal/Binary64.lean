import DeskCalculator.Decimal.Binary64
import Mathlib

/-!
# Doubles and their contents

A double is determined by its contents (`contents_injective`): all doubles that are no numbers
are one, and the bits of the others are those of a sign and of a magnitude.  Conversely, bits
of a sign and of a magnitude up to that of infinity are the bits of a double
(`toNat_toBits_ofSignedBits`).
-/

namespace DeskCalculator.Binary64

/-! ### Contents -/

/-- The significands and scales of finite doubles. -/
structure IsCanonical (significand scale : Nat) : Prop where
  significand_lt : significand < 2 ^ 53
  le_significand_or : 2 ^ 52 ≤ significand ∨ scale = 0
  scale_le : scale ≤ 2045

/-- The bits of a magnitude with a sign. -/
def signedBits (negative : Bool) (magnitude : Nat) : Nat :=
  (if negative then 2 ^ 63 else 0) + magnitude

variable {x : Float} {negative : Bool} {significand scale : Nat}

theorem isCanonical_of_contents (h : contents x = .finite negative significand scale) :
  IsCanonical significand scale
  := by
  simp only [contents, Nat.pow_eq] at h
  split at h
  · split at h <;> cases h
  · split at h
    · cases h
      constructor
      all_goals omega
    · cases h
      constructor
      all_goals omega

theorem toNat_toBits_of_finite (h : contents x = .finite negative significand scale) :
  x.toBits.toNat = signedBits negative (scale * 2 ^ 52 + significand)
  := by
  have hlt := x.toBits.toNat_lt
  simp only [contents, Nat.pow_eq] at h
  split at h
  · split at h <;> cases h
  · split at h
    · cases h
      simp only [signedBits, decide_eq_true_eq]
      split
      all_goals omega
    · cases h
      simp only [signedBits, decide_eq_true_eq]
      split
      all_goals omega

theorem toNat_toBits_of_infinite (h : contents x = .infinite negative) :
  x.toBits.toNat = signedBits negative infinityBits
  := by
  have hlt := x.toBits.toNat_lt
  simp only [contents, Nat.pow_eq] at h
  split at h
  · split at h
    · cases h
      simp only [signedBits, infinityBits, decide_eq_true_eq, Nat.pow_eq]
      split
      all_goals omega
    · cases h
  · split at h <;> cases h

/-! ### Bits -/

section Fields

open Float.Model Float.Model.UnpackedFloat

variable (bits : BitVec Format.binary64.numBits)

theorem toNat_unpackExponent :
  (unpackExponent bits).toNat = bits.toNat / 2 ^ 52 % 2 ^ 11
  := by
  rw [unpackExponent_def, BitVec.extractLsb'_toNat, Nat.shiftRight_eq_div_pow]

theorem toNat_unpackMantissa :
  (unpackMantissa bits).toNat = bits.toNat % 2 ^ 52
  := by
  rw [unpackMantissa_def, BitVec.extractLsb'_toNat, Nat.shiftRight_zero]

/-- The bits of doubles that are no numbers have the largest exponent and a fraction. -/
theorem isNaNBits_iff :
  isNaNBits bits ↔ bits.toNat / 2 ^ 52 % 2 ^ 11 = 2047 ∧ bits.toNat % 2 ^ 52 ≠ 0
  := by
  rw [isNaNBits, decide_eq_true_iff, ← toNat_unpackExponent, ← toNat_unpackMantissa,
    ne_eq, ← BitVec.toNat_inj, ← BitVec.toNat_inj]
  rfl

/-- The doubles that are no numbers have the same bits. -/
theorem eq_packedNaN_of_isNaNBits (x : Float)
    (h : @isNaNBits Format.binary64 x.toBits.toBitVec) :
  x.toBits.toBitVec = packedNaN Format.binary64
  := by
  obtain ⟨hexponent, hmantissa⟩ := of_decide_eq_true h
  apply x.toModel.valid.eq_packedNaN hexponent hmantissa

/-- The bits of a double that is a number are kept. -/
theorem toBits_ofBits {bits : UInt64}
    (h : ¬ @isNaNBits Format.binary64 bits.toBitVec) :
  (Float.ofBits bits).toBits = bits
  := by
  have hpack := @pack_unpack Format.binary64 bits.toBitVec
  rw [if_neg h] at hpack
  apply UInt64.toBitVec_inj.mp hpack

end Fields

theorem isNaNBits_of_undefined (h : contents x = .undefined) :
  @Float.Model.UnpackedFloat.isNaNBits .binary64 x.toBits.toBitVec
  := by
  simp only [contents, Nat.pow_eq] at h
  apply (isNaNBits_iff _).mpr
  split at h
  · next hexponent =>
    split at h
    · cases h
    · next hfraction => exact ⟨hexponent, hfraction⟩
  · split at h <;> cases h

/-- A double is determined by its contents. -/
theorem contents_injective :
  Function.Injective contents
  := by
  intro x y h
  apply Float.toBits_inj.mp
  cases hx : contents x with
  | undefined =>
    have hnan := eq_packedNaN_of_isNaNBits x (isNaNBits_of_undefined hx)
    rw [← eq_packedNaN_of_isNaNBits y (isNaNBits_of_undefined (h.symm.trans hx))] at hnan
    apply UInt64.toBitVec_inj.mp hnan
  | infinite negative =>
    apply UInt64.toNat_inj.mp
    rw [toNat_toBits_of_infinite hx, toNat_toBits_of_infinite (h.symm.trans hx)]
  | finite negative significand scale =>
    apply UInt64.toNat_inj.mp
    rw [toNat_toBits_of_finite hx, toNat_toBits_of_finite (h.symm.trans hx)]

/-- Bits of a sign and of a magnitude up to that of infinity are the bits of a double. -/
theorem toNat_toBits_ofSignedBits {bits : Nat} (negative : Bool) (h : bits ≤ infinityBits) :
  (Float.ofBits (signedBits negative bits).toUInt64).toBits.toNat = signedBits negative bits
  := by
  simp only [infinityBits, Nat.pow_eq] at h
  have hbits : (signedBits negative bits).toUInt64.toNat = signedBits negative bits := by
    have hsize : UInt64.size = 2 ^ 64 := rfl
    apply UInt64.toNat_ofNat_of_lt'
    rw [signedBits, hsize]
    split <;> omega
  rw [toBits_ofBits, hbits]
  rw [isNaNBits_iff, UInt64.toNat_toBitVec, hbits, signedBits]
  split <;> omega

/-- Bits up to those of positive infinity are the bits of a double. -/
theorem toNat_toBits_ofBits {bits : Nat} (h : bits ≤ infinityBits) :
  (Float.ofBits bits.toUInt64).toBits.toNat = bits
  := by
  have hsigned := toNat_toBits_ofSignedBits false h
  rwa [signedBits, if_neg Bool.false_ne_true, Nat.zero_add] at hsigned

/-- A double that is a number without a sign. -/
def IsUnsigned (x : Float) : Prop :=
  contents x = .infinite false ∨ ∃ significand scale, contents x = .finite false significand scale

/-- A finite double without a sign. -/
def IsFiniteUnsigned (x : Float) : Prop :=
  ∃ significand scale, contents x = .finite false significand scale

/-- A double with bits up to those of positive infinity is a number without a sign. -/
theorem isUnsigned_of_toBits_le (h : x.toBits.toNat ≤ infinityBits) :
  IsUnsigned x
  := by
  simp only [infinityBits, Nat.pow_eq] at h
  have hsign : decide (2 ^ 63 ≤ x.toBits.toNat) = false := by
    apply decide_eq_false
    omega
  simp only [IsUnsigned, contents, Nat.pow_eq, hsign]
  split
  · next hexponent =>
    left
    apply if_pos
    omega
  · right
    split
    · exact ⟨_, _, rfl⟩
    · exact ⟨_, _, rfl⟩

end DeskCalculator.Binary64
