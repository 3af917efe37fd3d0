import DeskCalculator.Proofs.Decimal.Binary64
import DeskCalculator.Decimal

/-!
# Nearest doubles

The bits of the double nearest to a ratio of units depend on the ratio alone
(`nearestBits_mul_right`), and a ratio among those that round to a double has that double as
its nearest one (`nearestBits_eq`), and no other ratio has (`roundsTo_of_nearestBits`).  At the
lower end these ratios go down to halfway to the double below, which for a power of two is nearer
than the double above.

A nearest double is a number without a sign (`isUnsigned_nearest`).
-/

namespace DeskCalculator

namespace Binary64

variable {num den significand scale c : Nat}

/-! ### Rounding to whole numbers -/

/-- A ratio at most half away from a whole number is rounded to it, except for an odd one if
the ratio is halfway to the next whole number. -/
theorem roundHalfEven_eq (hlower : 2 * (significand * den) ≤ 2 * num + den)
    (hupper : 2 * num ≤ 2 * (significand * den) + den)
    (hodd : significand % 2 = 1 →
      2 * (significand * den) < 2 * num + den ∧ 2 * num < 2 * (significand * den) + den)
    (hden : 0 < den) :
  roundHalfEven num den = significand
  := by
  have hnum := Nat.div_add_mod num den
  have hrest := Nat.mod_lt num hden
  simp only [roundHalfEven]
  generalize num / den = quotient at hnum ⊢
  generalize num % den = rest at hnum hrest ⊢
  subst hnum
  obtain rfl | rfl : quotient = significand ∨ significand = quotient + 1 := by
    have hle : quotient < significand + 1 := by
      apply Nat.lt_of_mul_lt_mul_left (a := den)
      rw [Nat.mul_add, Nat.mul_comm den significand]
      omega
    have hge : significand < quotient + 2 := by
      apply Nat.lt_of_mul_lt_mul_left (a := den)
      rw [Nat.mul_add, Nat.mul_comm den significand]
      omega
    omega
  · rw [Nat.mul_comm quotient den] at hupper hodd
    rw [if_pos (by omega)]
  · rw [Nat.add_mul, Nat.mul_comm quotient den] at hlower hodd
    rw [if_neg (by omega)]

/-- A ratio is at most half away from what it is rounded to, and less than half if that is odd. -/
theorem roundHalfEven_spec (hden : 0 < den) (hround : roundHalfEven num den = significand) :
  2 * (significand * den) ≤ 2 * num + den
    ∧ 2 * num ≤ 2 * (significand * den) + den
    ∧ (significand % 2 = 1 →
      2 * (significand * den) < 2 * num + den ∧ 2 * num < 2 * (significand * den) + den)
  := by
  have hnum := Nat.div_add_mod num den
  have hrest := Nat.mod_lt num hden
  rw [roundHalfEven] at hround
  generalize num / den = quotient at hnum hround
  generalize num % den = rest at hnum hrest hround
  subst hnum hround
  split
  · rw [Nat.mul_comm quotient den]
    omega
  · rw [Nat.add_mul, Nat.mul_comm quotient den]
    omega

/-- What a ratio is rounded to depends on the ratio alone. -/
theorem roundHalfEven_mul_right (hc : 0 < c) :
  roundHalfEven (num * c) (den * c) = roundHalfEven num den
  := by
  have hlt : 2 * (num % den * c) < den * c ↔ 2 * (num % den) < den := by
    rw [← Nat.mul_assoc, Nat.mul_lt_mul_right hc]
  have heq : 2 * (num % den * c) = den * c ↔ 2 * (num % den) = den := by
    rw [← Nat.mul_assoc, Nat.mul_right_cancel_iff hc]
  simp only [roundHalfEven, Nat.mul_div_mul_right _ _ hc, Nat.mul_mod_mul_right, hlt, heq]

/-! ### Rounding to doubles -/

/-- The nearest double depends on the ratio alone. -/
theorem nearestBits_mul_right (hc : 0 < c) :
  nearestBits (num * c) (den * c) = nearestBits num den
  := by
  simp only [nearestBits, Nat.mul_div_mul_right _ _ hc, Nat.mul_right_comm den c,
    roundHalfEven_mul_right hc]

/-- Equal ratios have the same nearest double. -/
theorem nearestBits_congr {num' den' : Nat} (hden : 0 < den) (hden' : 0 < den')
    (h : num * den' = num' * den) :
  nearestBits num den = nearestBits num' den'
  := by
  rw [← nearestBits_mul_right hden', h, Nat.mul_comm den den', nearestBits_mul_right hden]

/-- In the range of a scale, a ratio is rounded to a whole multiple of that scale's units. -/
theorem nearestBits_eq_min (hden : 0 < den) (hlower : scale = 0 ∨ 2 ^ 52 * (den * 2 ^ scale) ≤ num)
    (hupper : num < 2 ^ 53 * (den * 2 ^ scale)) :
  nearestBits num den
    = min infinityBits (scale * 2 ^ 52 + roundHalfEven num (den * 2 ^ scale))
  := by
  have hscale : (num / den).log2 - 52 = scale := by
    have hlt : num / den < 2 ^ (scale + 53) := by
      rw [Nat.div_lt_iff_lt_mul hden, Nat.pow_add]
      linarith
    obtain rfl | hge := hlower
    · have hlog : (num / den).log2 < 53 := by
        by_cases hzero : num / den = 0
        · rw [hzero]
          decide
        · apply (Nat.log2_lt hzero).mpr hlt
      omega
    · have hge : 2 ^ (scale + 52) ≤ num / den := by
        rw [Nat.le_div_iff_mul_le hden, Nat.pow_add]
        linarith
      have hzero : num / den ≠ 0 := Nat.ne_of_gt (Nat.lt_of_lt_of_le (Nat.two_pow_pos _) hge)
      have hlog : (num / den).log2 = scale + 52 := (Nat.log2_eq_iff hzero).mpr ⟨hge, hlt⟩
      omega
  simp only [nearestBits, hscale, Nat.pow_eq]

theorem nearestBits_zero (hden : 0 < den) :
  nearestBits 0 den = 0
  := by
  have hround : roundHalfEven 0 (den * 2 ^ 0) = 0 := by
    simp [roundHalfEven, hden]
  rw [nearestBits_eq_min hden (Or.inl rfl), hround]
  · rfl
  · rw [Nat.pow_zero, Nat.mul_one]
    omega

/-- The distance to the numbers that round to a double, downwards, in quarters of the distance
to the double above. -/
def quartersBelow (significand scale : Nat) : Nat :=
  if significand = 2 ^ 52 ∧ scale ≠ 0 then 1 else 2

theorem quartersBelow_le (significand scale : Nat) :
  quartersBelow significand scale ≤ 2
  := by
  unfold quartersBelow
  split
  · decide
  · decide

/-- A ratio among those that round to a double; halfway to the next double it rounds to the even
one. -/
structure RoundsTo (num den significand scale : Nat) : Prop where
  lower : 4 * significand * (den * 2 ^ scale)
    ≤ 4 * num + quartersBelow significand scale * (den * 2 ^ scale)
  upper : 4 * num ≤ (4 * significand + 2) * (den * 2 ^ scale)
  lower_of_odd : significand % 2 = 1 → 4 * significand * (den * 2 ^ scale)
    < 4 * num + quartersBelow significand scale * (den * 2 ^ scale)
  upper_of_odd : significand % 2 = 1 → 4 * num < (4 * significand + 2) * (den * 2 ^ scale)

namespace RoundsTo

/-- A ratio that rounds to a double is rounded to its significand in the units of its scale. -/
theorem roundHalfEven_eq (h : RoundsTo num den significand scale) (hden : 0 < den) :
  roundHalfEven num (den * 2 ^ scale) = significand
  := by
  have hunit : 0 < den * 2 ^ scale := Nat.mul_pos hden (Nat.two_pow_pos _)
  have hbelow : quartersBelow significand scale * (den * 2 ^ scale) ≤ 2 * (den * 2 ^ scale) :=
    Nat.mul_le_mul_right _ (quartersBelow_le significand scale)
  obtain ⟨hlower, hupper, hlowerodd, hupperodd⟩ := h
  rw [Nat.add_mul] at hupper hupperodd
  rw [Nat.mul_assoc] at hlower hupper hlowerodd hupperodd
  apply Binary64.roundHalfEven_eq
  · omega
  · omega
  · intro hodd
    have hstrict := hlowerodd hodd
    have hstrict' := hupperodd hodd
    omega
  · apply hunit

/-- A ratio that rounds to a double is below the range of the next scale. -/
theorem lt_next (h : RoundsTo num den significand scale) (hden : 0 < den)
    (hlt : significand < 2 ^ 53) :
  num < 2 ^ 53 * (den * 2 ^ scale)
  := by
  have hunit : 0 < den * 2 ^ scale := Nat.mul_pos hden (Nat.two_pow_pos _)
  have hle : significand * (den * 2 ^ scale) ≤ (2 ^ 53 - 1) * (den * 2 ^ scale) :=
    Nat.mul_le_mul_right _ (by omega)
  have hupper := h.upper
  rw [Nat.add_mul, Nat.mul_assoc] at hupper
  rw [Nat.sub_mul] at hle
  omega

/-- A ratio below the range of the scale of a double rounds to it only if the double is at the
lower end of this range. -/
theorem significand_eq_of_lt (h : RoundsTo num den significand scale)
    (hle : 2 ^ 52 ≤ significand) (hlt : num < 2 ^ 52 * (den * 2 ^ scale)) :
  significand = 2 ^ 52
  := by
  have hbelow : quartersBelow significand scale * (den * 2 ^ scale) ≤ 2 * (den * 2 ^ scale) :=
    Nat.mul_le_mul_right _ (quartersBelow_le significand scale)
  have hlower := h.lower
  rw [Nat.mul_assoc] at hlower
  have hnext : significand < 2 ^ 52 + 1 := by
    apply Nat.lt_of_mul_lt_mul_right (a := den * 2 ^ scale)
    rw [Nat.add_mul]
    omega
  omega

/-- A ratio that rounds to a power of two from below its range has the same double in the units of
the scale below. -/
theorem nearestBits_of_lt (h : RoundsTo num den (2 ^ 52) (scale + 1)) (hden : 0 < den)
    (hlt : num < 2 ^ 52 * (den * 2 ^ (scale + 1))) :
  nearestBits num den = min infinityBits (scale * 2 ^ 52 + 2 ^ 53)
  := by
  have hunit : 0 < den * 2 ^ scale := Nat.mul_pos hden (Nat.two_pow_pos _)
  have hdouble : den * 2 ^ (scale + 1) = 2 * (den * 2 ^ scale) := by
    rw [Nat.pow_succ]
    linarith
  have hlower := h.lower
  have hquarter : quartersBelow (2 ^ 52) (scale + 1) = 1 := if_pos ⟨rfl, Nat.succ_ne_zero _⟩
  rw [hdouble, hquarter] at hlower
  rw [hdouble] at hlt
  have hround : roundHalfEven num (den * 2 ^ scale) = 2 ^ 53 := by
    apply Binary64.roundHalfEven_eq
    · omega
    · omega
    · intro hodd
      omega
    · apply hunit
  rw [nearestBits_eq_min hden (Or.inr _) _, hround]
  · omega
  · omega

end RoundsTo

/-- The nearest double of a ratio that rounds to a double is this double. -/
theorem nearestBits_eq (hden : 0 < den) (hcanonical : IsCanonical significand scale)
    (h : RoundsTo num den significand scale) :
  nearestBits num den = scale * 2 ^ 52 + significand
  := by
  obtain ⟨hlt, hnormal, hscale⟩ := hcanonical
  have hfinite : scale * 2 ^ 52 + significand ≤ infinityBits := by
    simp only [infinityBits, Nat.pow_eq]
    omega
  by_cases hrange : scale = 0 ∨ 2 ^ 52 * (den * 2 ^ scale) ≤ num
  · rw [nearestBits_eq_min hden hrange (h.lt_next hden hlt), h.roundHalfEven_eq hden]
    apply Nat.min_eq_right hfinite
  · push Not at hrange
    obtain ⟨hscale, hbelow⟩ := hrange
    obtain rfl := h.significand_eq_of_lt (hnormal.resolve_right hscale) hbelow
    obtain ⟨previous, rfl⟩ := Nat.exists_eq_add_one_of_ne_zero hscale
    have hcarry : previous * 2 ^ 52 + 2 ^ 53 = (previous + 1) * 2 ^ 52 + 2 ^ 52 := by omega
    rw [h.nearestBits_of_lt hden hbelow, hcarry]
    apply Nat.min_eq_right hfinite

/-! ### Ratios with the same nearest double -/

/-- The ratios that round to a double, for even and for odd ones. -/
theorem roundsTo_iff :
  RoundsTo num den significand scale
    ↔ if significand % 2 = 0 then
        4 * significand * (den * 2 ^ scale)
            ≤ 4 * num + quartersBelow significand scale * (den * 2 ^ scale)
          ∧ 4 * num ≤ (4 * significand + 2) * (den * 2 ^ scale)
      else
        4 * significand * (den * 2 ^ scale)
            < 4 * num + quartersBelow significand scale * (den * 2 ^ scale)
          ∧ 4 * num < (4 * significand + 2) * (den * 2 ^ scale)
  := by
  split
  · constructor
    · exact fun h => ⟨h.lower, h.upper⟩
    · exact fun h => ⟨h.1, h.2, by omega, by omega⟩
  · constructor
    · exact fun h => ⟨h.lower_of_odd (by omega), h.upper_of_odd (by omega)⟩
    · exact fun h => ⟨Nat.le_of_lt h.1, Nat.le_of_lt h.2, fun _ => h.1, fun _ => h.2⟩

/-- Every ratio is in the range of a scale. -/
theorem exists_scale (num : Nat) (hden : 0 < den) :
  ∃ scale, (scale = 0 ∨ 2 ^ 52 * (den * 2 ^ scale) ≤ num) ∧ num < 2 ^ 53 * (den * 2 ^ scale)
  := by
  use (num / den).log2 - 52
  have hlt : num / den < 2 ^ ((num / den).log2 + 1) := Nat.lt_log2_self
  have hmul : ∀ k scale, 2 ^ k * (den * 2 ^ scale) = 2 ^ (k + scale) * den := by
    intro k scale
    rw [Nat.pow_add]
    ring
  rw [hmul, hmul, ← Nat.div_lt_iff_lt_mul hden, ← Nat.le_div_iff_mul_le hden]
  constructor
  · by_cases hscale : (num / den).log2 ≤ 52
    · left
      omega
    · right
      have hne : num / den ≠ 0 := by
        intro hzero
        rw [hzero] at hscale
        exact hscale (by decide)
      have hself : 2 ^ (num / den).log2 ≤ num / den := Nat.log2_self_le hne
      have hsum : 52 + ((num / den).log2 - 52) = (num / den).log2 := by omega
      rw [hsum]
      apply hself
  · apply Nat.lt_of_lt_of_le hlt
    apply Nat.pow_le_pow_right (by decide)
    omega

/-- A ratio is among those that round to what it is rounded to in the units of its scale. -/
theorem roundsTo_of_roundHalfEven (hden : 0 < den)
    (hlower : scale = 0 ∨ 2 ^ 52 * (den * 2 ^ scale) ≤ num)
    (hround : roundHalfEven num (den * 2 ^ scale) = significand) :
  RoundsTo num den significand scale
  := by
  have hunit : 0 < den * 2 ^ scale := Nat.mul_pos hden (Nat.two_pow_pos _)
  obtain ⟨hbelow, habove, hstrict⟩ := roundHalfEven_spec hunit hround
  have hquarters : significand % 2 = 1 → quartersBelow significand scale = 2 := by
    intro hodd
    apply if_neg
    omega
  constructor
  · rw [quartersBelow, Nat.mul_assoc]
    split
    · next hpower =>
      have hnum := hlower.resolve_left hpower.2
      rw [hpower.1]
      omega
    · omega
  · rw [Nat.add_mul, Nat.mul_assoc]
    omega
  · intro hodd
    have hless := (hstrict hodd).1
    rw [hquarters hodd, Nat.mul_assoc]
    omega
  · intro hodd
    have hless := (hstrict hodd).2
    rw [Nat.add_mul, Nat.mul_assoc]
    omega

/-- A ratio that is rounded up to the next scale is among those that round to a power of two. -/
theorem roundsTo_of_carry (hden : 0 < den) (hupper : num < 2 ^ 53 * (den * 2 ^ scale))
    (hround : roundHalfEven num (den * 2 ^ scale) = 2 ^ 53) :
  RoundsTo num den (2 ^ 52) (scale + 1)
  := by
  have hunit : 0 < den * 2 ^ scale := Nat.mul_pos hden (Nat.two_pow_pos _)
  obtain ⟨hbelow, -, -⟩ := roundHalfEven_spec hunit hround
  have hdouble : den * 2 ^ (scale + 1) = 2 * (den * 2 ^ scale) := by
    rw [Nat.pow_succ]
    linarith
  have hquarter : quartersBelow (2 ^ 52) (scale + 1) = 1 := if_pos ⟨rfl, Nat.succ_ne_zero _⟩
  constructor
  · rw [hquarter, hdouble]
    omega
  · rw [hdouble]
    omega
  · omega
  · omega

/-- A ratio whose nearest double is finite is among those that round to this double. -/
theorem roundsTo_of_nearestBits (hden : 0 < den) (hcanonical : IsCanonical significand scale)
    (h : nearestBits num den = scale * 2 ^ 52 + significand) :
  RoundsTo num den significand scale
  := by
  obtain ⟨hlt, hnormal, hscale⟩ := hcanonical
  obtain ⟨range, hlower, hupper⟩ := exists_scale num hden
  generalize hround : roundHalfEven num (den * 2 ^ range) = rounded
  have hunit : 0 < den * 2 ^ range := Nat.mul_pos hden (Nat.two_pow_pos _)
  obtain ⟨hbelow, habove, -⟩ := roundHalfEven_spec hunit hround
  have hbits : range * 2 ^ 52 + rounded = scale * 2 ^ 52 + significand := by
    rw [nearestBits_eq_min hden hlower hupper, hround] at h
    simp only [infinityBits, Nat.pow_eq] at h
    omega
  have hle : rounded < 2 ^ 53 + 1 := by
    apply Nat.lt_of_mul_lt_mul_right (a := den * 2 ^ range)
    rw [Nat.add_mul]
    omega
  have hge : range = 0 ∨ 2 ^ 52 < rounded + 1 := by
    apply hlower.imp_right
    intro hnum
    apply Nat.lt_of_mul_lt_mul_right (a := den * 2 ^ range)
    rw [Nat.add_mul]
    omega
  obtain hcarry | hsame : rounded = 2 ^ 53 ∨ rounded < 2 ^ 53 := by omega
  · obtain ⟨rfl, rfl⟩ : scale = range + 1 ∧ significand = 2 ^ 52 := by omega
    apply roundsTo_of_carry hden hupper
    rw [hround, hcarry]
  · obtain ⟨rfl, rfl⟩ : scale = range ∧ significand = rounded := by omega
    apply roundsTo_of_roundHalfEven hden hlower hround

/-- A ratio between two ratios that round to a double rounds to it as well. -/
theorem RoundsTo.between {low lowDen high highDen : Nat}
    (hlow : RoundsTo low lowDen significand scale) (hhigh : RoundsTo high highDen significand scale)
    (hlowDen : 0 < lowDen) (hhighDen : 0 < highDen) (hden : 0 < den)
    (hge : low * den ≤ num * lowDen) (hle : num * highDen ≤ high * den) :
  RoundsTo num den significand scale
  := by
  constructor
  · apply Nat.le_of_mul_le_mul_right _ hlowDen
    have hlower := Nat.mul_le_mul_right den hlow.lower
    linarith
  · apply Nat.le_of_mul_le_mul_right _ hhighDen
    have hupper := Nat.mul_le_mul_right den hhigh.upper
    linarith
  · intro hodd
    apply Nat.lt_of_mul_lt_mul_right (a := lowDen)
    have hlower := Nat.mul_lt_mul_of_pos_right (hlow.lower_of_odd hodd) hden
    linarith
  · intro hodd
    apply Nat.lt_of_mul_lt_mul_right (a := highDen)
    have hupper := Nat.mul_lt_mul_of_pos_right (hhigh.upper_of_odd hodd) hden
    linarith

/-! ### Nearest doubles have no sign -/

theorem nearestBits_le (num den : Nat) :
  nearestBits num den ≤ infinityBits
  := Nat.min_le_left _ _

theorem toNat_toBits_nearest (num den : Nat) :
  (nearest num den).toBits.toNat = nearestBits num den
  := toNat_toBits_ofBits (nearestBits_le num den)

theorem isUnsigned_nearest (num den : Nat) :
  IsUnsigned (nearest num den)
  := by
  apply isUnsigned_of_toBits_le
  rw [toNat_toBits_nearest]
  apply nearestBits_le

end Binary64

/-- A decimal has a number without a sign as its nearest double. -/
theorem Decimal.isUnsigned_toFloat (d : Decimal) :
  Binary64.IsUnsigned d.toFloat
  := by
  rw [toFloat]
  split
  · apply Binary64.isUnsigned_nearest
  · apply Binary64.isUnsigned_nearest

end DeskCalculator
