import DeskCalculator.Decimal.Shortest
import DeskCalculator.Proofs.Decimal.Nearest

/-!
# Shortest decimals are read back

The double nearest to a decimal depends on the value of the decimal alone (`nearestBits_congr`),
and the shortest decimal of a double has this double as its nearest one (`nearestBits_shortest`):
the search for it stops at a multiple of a power of ten that rounds to the double, at the latest
at the double itself.
-/

namespace DeskCalculator

namespace Decimal

/-! ### Decimals as ratios -/

/-- The numerator of a decimal. -/
def num (d : Decimal) : Nat :=
  d.digits * 10 ^ d.exponent.toNat

/-- The denominator of a decimal. -/
def den (d : Decimal) : Nat :=
  10 ^ (-d.exponent).toNat

/-- The numerator of a decimal, counted in the unit of doubles. -/
def units (d : Decimal) : Nat :=
  d.num * Nat.pow 2 1074

theorem den_pos (d : Decimal) :
  0 < d.den
  := Nat.pow_pos (by decide)

theorem units_eq_zero {d : Decimal} (h : d.num = 0) :
  d.units = 0
  := by
  rw [units, h]
  apply Nat.zero_mul

/-- Decimals with the same value. -/
def SameValue (d d' : Decimal) : Prop :=
  d.num * d'.den = d'.num * d.den

/-- The value of a decimal is the double nearest to its ratio. -/
theorem toFloat_eq (d : Decimal) :
  d.toFloat = Binary64.nearest d.units d.den
  := by
  rw [toFloat, units, num, den]
  split
  · next hexponent =>
    have hden : (-d.exponent).toNat = 0 := by omega
    rw [hden, Nat.pow_zero, Nat.mul_right_comm]
    rfl
  · next hexponent =>
    have hnum : d.exponent.toNat = 0 := by omega
    rw [hnum, Nat.pow_zero, Nat.mul_one]
    rfl

theorem toNat_toBits_toFloat (d : Decimal) :
  d.toFloat.toBits.toNat = Binary64.nearestBits d.units d.den
  := by
  rw [toFloat_eq, Binary64.toNat_toBits_nearest]

/-- The nearest double depends on the value of a decimal alone. -/
theorem nearestBits_congr {d d' : Decimal} (h : SameValue d d') :
  Binary64.nearestBits d.units d.den = Binary64.nearestBits d'.units d'.den
  := by
  apply Binary64.nearestBits_congr d.den_pos d'.den_pos
  rw [units, units, Nat.mul_right_comm, h, Nat.mul_right_comm]

/-- A decimal, counted in units of `10 ^ (-m)` and in quarters of the unit of doubles. -/
theorem mul_den_eq (digits place : Nat) {m n : Nat} (hm : m = n + 2) (hn : n = 1074) :
  digits * 10 ^ place * (⟨digits, place - m⟩ : Decimal).den
    = 4 * (⟨digits, place - m⟩ : Decimal).units * Nat.pow 5 m
  := by
  subst hm
  rw [units, ← hn]
  have hexponent : ((place : Int) - (n + 2 : Nat)).toNat + (n + 2)
      = place + (-((place : Int) - (n + 2 : Nat))).toNat := by
    omega
  have hnum : (⟨digits, place - (n + 2 : Nat)⟩ : Decimal).num * 10 ^ (n + 2)
      = digits * 10 ^ place * (⟨digits, place - (n + 2 : Nat)⟩ : Decimal).den := by
    rw [num, den, Nat.mul_assoc, ← Nat.pow_add, hexponent, Nat.pow_add, Nat.mul_assoc]
  have hten : 10 ^ (n + 2) = 4 * Nat.pow 2 n * Nat.pow 5 (n + 2) := by
    have hmul : 10 ^ (n + 2) = 2 ^ (n + 2) * 5 ^ (n + 2) := Nat.mul_pow 2 5 (n + 2)
    rw [hmul, Nat.pow_add 2, Nat.pow_eq, Nat.pow_eq]
    ring
  rw [← hnum, hten]
  ring

end Decimal

namespace Neighbourhood

open Binary64

/-! ### The search -/

variable {n : Neighbourhood} {tie : Tie} {significand scale : Nat}

/-- A multiple that the search takes rounds to the double. -/
theorem holds_of_multiplier? {step digits : Nat} (h : n.multiplier? tie step = some digits) :
  n.holds (digits * step)
  := by
  simp only [multiplier?] at h
  split at h
  · cases h
  · next hbelow _ =>
    cases h
    apply hbelow
  · next _ habove =>
    cases h
    apply habove
  · next hbelow habove =>
    split at h
    · cases h
      apply hbelow
    · split at h
      · cases h
        apply habove
      · split at h
        · cases h
          apply habove
        · cases h
          split
          · apply hbelow
          · apply habove

/-- The search ends with a decimal that rounds to the double, if the double does. -/
theorem holds_shortestBelow (hvalue : n.holds n.value) (place : Nat) :
  ∃ digits last : Nat, n.shortestBelow tie place = ⟨digits, (last : Int) - (1076 : Nat)⟩
    ∧ n.holds (digits * 10 ^ last)
  := by
  induction place with
  | zero =>
    refine ⟨n.value, 0, rfl, ?_⟩
    rw [Nat.pow_zero, Nat.mul_one]
    apply hvalue
  | succ place ih =>
    rw [shortestBelow]
    cases hdigits : n.multiplier? tie (Nat.pow 10 (place + 1)) with
    | some digits => exact ⟨digits, place + 1, rfl, holds_of_multiplier? hdigits⟩
    | none => apply ih

/-! ### The numbers around a double -/

/-- A quarter of the distance to the double above, counted in units of `10 ^ (-places)`. -/
def quarter (places scale : Nat) : Nat :=
  2 ^ scale * Nat.pow 5 places

theorem quarter_eq (places scale : Nat) :
  Nat.pow 2 scale * Nat.pow 5 places = quarter places scale
  := rfl

theorem five_pow_pos (n : Nat) :
  0 < Nat.pow 5 n
  := Nat.pow_pos (by decide)

theorem quarter_pos (places scale : Nat) :
  0 < quarter places scale
  := Nat.mul_pos (Nat.two_pow_pos scale) (five_pow_pos places)

theorem value_ofDouble (significand scale : Nat) :
  (ofDouble significand scale).value = 4 * significand * quarter 1076 scale
  := by
  simp only [ofDouble, quarter_eq]

/-- The numbers around a double, by their distances from it. -/
theorem holds_ofDouble_iff (hpos : 0 < significand) (value : Nat) :
  (ofDouble significand scale).holds value
    ↔ if significand % 2 = 0 then
        4 * significand * quarter 1076 scale
            ≤ value + quartersBelow significand scale * quarter 1076 scale
          ∧ value ≤ (4 * significand + 2) * quarter 1076 scale
      else
        4 * significand * quarter 1076 scale
            < value + quartersBelow significand scale * quarter 1076 scale
          ∧ value < (4 * significand + 2) * quarter 1076 scale
  := by
  have hbelow := quartersBelow_le significand scale
  have hquarters : (if significand = Nat.pow 2 52 ∧ scale ≠ 0 then 1 else 2)
      = quartersBelow significand scale := rfl
  have hle : quartersBelow significand scale * quarter 1076 scale
      ≤ 4 * significand * quarter 1076 scale := Nat.mul_le_mul_right _ (by omega)
  simp only [holds, ofDouble, hquarters, quarter_eq, decide_eq_true_eq]
  rw [Nat.sub_mul]
  split
  · rw [Bool.and_eq_true, decide_eq_true_eq, decide_eq_true_eq]
    omega
  · rw [Bool.and_eq_true, decide_eq_true_eq, decide_eq_true_eq]
    omega

/-- A double is among the numbers around it. -/
theorem holds_value (hpos : 0 < significand) :
  (ofDouble significand scale).holds (ofDouble significand scale).value
  := by
  have hbelow : 0 < quartersBelow significand scale := by
    unfold quartersBelow
    split
    · decide
    · decide
  have hquarter := quarter_pos 1076 scale
  have hquarters := Nat.mul_pos hbelow hquarter
  rw [holds_ofDouble_iff hpos, value_ofDouble, Nat.add_mul]
  split
  · omega
  · omega

/-- Numbers compare as their multiples do. -/
theorem lt_iff_of_mul_eq {a b a' b' c c' : Nat} (hc : 0 < c) (hc' : 0 < c')
    (ha : a * c = a' * c') (hb : b * c = b' * c') :
  a < b ↔ a' < b'
  := by
  rw [← Nat.mul_lt_mul_right hc, ha, hb, Nat.mul_lt_mul_right hc']

/-- The numbers around a double are, as ratios of units of doubles, those that round to it. -/
theorem roundsTo_iff_of_mul_eq {num den value five : Nat} (hpos : 0 < significand)
    (hden : 0 < den) (hfive : 0 < five) (hunits : value * den = 4 * num * five)
    (hquarter : 2 ^ scale * five = quarter 1076 scale) :
  RoundsTo num den significand scale ↔ (ofDouble significand scale).holds value
  := by
  rw [roundsTo_iff, holds_ofDouble_iff hpos, ← hquarter]
  have hlower : 4 * significand * (2 ^ scale * five) * den
      = 4 * significand * (den * 2 ^ scale) * five := by
    ring
  have hvalue : (value + quartersBelow significand scale * (2 ^ scale * five)) * den
      = (4 * num + quartersBelow significand scale * (den * 2 ^ scale)) * five := by
    rw [Nat.add_mul, hunits]
    ring
  have hupper : (4 * significand + 2) * (2 ^ scale * five) * den
      = (4 * significand + 2) * (den * 2 ^ scale) * five := by
    ring
  split
  · have hnotbelow := lt_iff_of_mul_eq hden hfive hvalue hlower
    have hnotabove := lt_iff_of_mul_eq hden hfive hupper hunits
    rw [← Nat.not_lt, ← Nat.not_lt, ← hnotbelow, ← hnotabove, Nat.not_lt, Nat.not_lt]
  · have habove := lt_iff_of_mul_eq hden hfive hlower hvalue
    have hbelow := lt_iff_of_mul_eq hden hfive hunits hupper
    rw [habove, hbelow]

end Neighbourhood

namespace Decimal

open Binary64

variable {tie : Tie} {significand scale : Nat}

/-- The decimals that round to a double are those among the numbers around it. -/
theorem roundsTo_iff_holds {m n digits place : Nat} (hm : m = n + 2) (hn : n = 1074)
    (hpos : 0 < significand) :
  RoundsTo (⟨digits, place - m⟩ : Decimal).units (⟨digits, place - m⟩ : Decimal).den
      significand scale
    ↔ (Neighbourhood.ofDouble significand scale).holds (digits * 10 ^ place)
  := by
  have hplaces : m = 1076 := by omega
  have hquarter : 2 ^ scale * Nat.pow 5 m = Neighbourhood.quarter 1076 scale := by
    rw [← hplaces, Neighbourhood.quarter]
  apply Neighbourhood.roundsTo_iff_of_mul_eq hpos (den_pos _) (Neighbourhood.five_pow_pos m)
    (mul_den_eq digits place hm hn) hquarter

/-- The shortest decimal of a double is among the numbers around it. -/
theorem exists_holds_shortest (tie : Tie) (scale : Nat) (hpos : 0 < significand) :
  ∃ digits place : Nat, shortest tie significand scale = ⟨digits, (place : Int) - (1076 : Nat)⟩
    ∧ (Neighbourhood.ofDouble significand scale).holds (digits * 10 ^ place)
  := by
  rw [shortest, if_neg (Nat.ne_of_gt hpos)]
  apply Neighbourhood.holds_shortestBelow (Neighbourhood.holds_value hpos)

/-- The shortest decimal of a double rounds to it. -/
theorem roundsTo_shortest (tie : Tie) (scale : Nat) (hpos : 0 < significand) :
  RoundsTo (shortest tie significand scale).units (shortest tie significand scale).den
    significand scale
  := by
  obtain ⟨digits, place, hshortest, hholds⟩ := exists_holds_shortest tie scale hpos
  rw [hshortest]
  exact (roundsTo_iff_holds (m := 1076) rfl rfl hpos).mpr hholds

/-- The shortest decimal of a double has this double as its nearest one. -/
theorem nearestBits_shortest (hcanonical : IsCanonical significand scale) :
  nearestBits (shortest tie significand scale).units (shortest tie significand scale).den
    = scale * 2 ^ 52 + significand
  := by
  obtain rfl | hpos := Nat.eq_zero_or_pos significand
  · obtain rfl : scale = 0 := by
      obtain hle | hscale := hcanonical.le_significand_or
      · omega
      · apply hscale
    have hnum : (shortest tie 0 0).num = 0 := Nat.zero_mul _
    rw [units_eq_zero hnum, nearestBits_zero (den_pos _)]
    rfl
  · apply nearestBits_eq (den_pos _) hcanonical (roundsTo_shortest tie scale hpos)

end Decimal

end DeskCalculator
