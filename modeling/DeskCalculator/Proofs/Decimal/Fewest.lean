import DeskCalculator.Proofs.Decimal.Layout
import DeskCalculator.Proofs.Decimal.Shortest

/-!
# Shortest decimals have the fewest digits

The search for the shortest decimal of a double goes down from the first place where a decimal can
round to the double, and passes over no place that has one (`le_of_shortestBelow`).  So the last
digit of any decimal that rounds to the double is at most at the place where the search ends.  A
decimal with fewer digits would be below a power of ten that is at most the shortest decimal: this
power rounds to the double as well, but its only digit is at a higher place
(`length_shortest_le`).
-/

namespace DeskCalculator

namespace Neighbourhood

open Binary64

variable {n : Neighbourhood} {tie : Tie} {low mid high step digits place last : Nat}

/-! ### Places of the search -/

/-- A number between two numbers that round to the double rounds to it as well. -/
theorem holds_between (hlow : n.holds low) (hhigh : n.holds high) (hle : low ≤ mid)
    (hle' : mid ≤ high) :
  n.holds mid
  := by
  simp only [holds] at hlow hhigh ⊢
  split
  · next hclosed =>
    rw [if_pos hclosed, Bool.and_eq_true, decide_eq_true_eq, decide_eq_true_eq] at hlow hhigh
    rw [Bool.and_eq_true, decide_eq_true_eq, decide_eq_true_eq]
    omega
  · next hopen =>
    rw [if_neg hopen, Bool.and_eq_true, decide_eq_true_eq, decide_eq_true_eq] at hlow hhigh
    rw [Bool.and_eq_true, decide_eq_true_eq, decide_eq_true_eq]
    omega

/-- If some multiple rounds to the double, one of the two next to the double does. -/
theorem multiplier?_ne_none (hvalue : n.holds n.value) (hstep : 0 < step)
    (h : n.holds (digits * step)) :
  n.multiplier? tie step ≠ none
  := by
  have hbelow : n.value / step * step ≤ n.value := Nat.div_mul_le_self _ _
  have habove : n.value < (n.value / step + 1) * step := by
    rw [Nat.mul_comm]
    apply Nat.lt_mul_div_succ _ hstep
  have hneighbour : n.holds (n.value / step * step) ∨ n.holds ((n.value / step + 1) * step) := by
    obtain hle | hlt : digits ≤ n.value / step ∨ n.value / step + 1 ≤ digits := by omega
    · left
      apply holds_between h hvalue (Nat.mul_le_mul_right step hle) hbelow
    · right
      apply holds_between hvalue h (Nat.le_of_lt habove) (Nat.mul_le_mul_right step hlt)
  simp only [multiplier?]
  intro hnone
  split at hnone
  · next hnotbelow hnotabove =>
    rw [hnotbelow, hnotabove] at hneighbour
    obtain hfalse | hfalse := hneighbour <;> cases hfalse
  · cases hnone
  · cases hnone
  · split at hnone
    · cases hnone
    · split at hnone
      · cases hnone
      · split at hnone <;> cases hnone

/-- The search passes over no place that has a number which rounds to the double. -/
theorem le_of_shortestBelow {found foundLast : Nat} (hvalue : n.holds n.value)
    (hfound : n.shortestBelow tie place = ⟨found, (foundLast : Int) - (1076 : Nat)⟩)
    (hplace : last ≤ place) (h : n.holds (digits * 10 ^ last)) :
  last ≤ foundLast
  := by
  induction place with
  | zero => omega
  | succ place ih =>
    rw [shortestBelow] at hfound
    cases hmultiplier : n.multiplier? tie (Nat.pow 10 (place + 1)) with
    | some multiplier =>
      rw [hmultiplier] at hfound
      have hexponent := congrArg Decimal.exponent hfound
      simp only at hexponent
      omega
    | none =>
      rw [hmultiplier] at hfound
      obtain rfl | hlt := Nat.eq_or_lt_of_le hplace
      · exact absurd hmultiplier (multiplier?_ne_none hvalue (Nat.pow_pos (by decide)) h)
      · apply ih hfound (Nat.le_of_lt_succ hlt)

variable {significand scale : Nat}

/-- Zero does not round to the double. -/
theorem pos_of_holds (hpos : 0 < significand) (h : (ofDouble significand scale).holds mid) :
  0 < mid
  := by
  have hbelow : quartersBelow significand scale * quarter 1076 scale ≤ 2 * quarter 1076 scale :=
    Nat.mul_le_mul_right _ (quartersBelow_le significand scale)
  have hquarter : quarter 1076 scale ≤ significand * quarter 1076 scale :=
    Nat.le_mul_of_pos_left _ hpos
  have hquarterpos := quarter_pos 1076 scale
  rw [holds_ofDouble_iff hpos, Nat.mul_assoc] at h
  split at h
  · omega
  · omega

/-- A number that rounds to the double is at most twice as large. -/
theorem le_two_mul_of_holds (hpos : 0 < significand) (h : (ofDouble significand scale).holds mid) :
  mid ≤ 2 * (ofDouble significand scale).value
  := by
  have hquarter : quarter 1076 scale ≤ significand * quarter 1076 scale :=
    Nat.le_mul_of_pos_left _ hpos
  rw [holds_ofDouble_iff hpos, Nat.add_mul, Nat.mul_assoc] at h
  rw [value_ofDouble, Nat.mul_assoc]
  split at h
  · omega
  · omega

/-- No multiple of a power of ten above the first place of the search rounds to the double. -/
theorem le_of_holds (hpos : 0 < significand)
    (h : (ofDouble significand scale).holds (digits * 10 ^ last)) :
  last ≤ (ofDouble significand scale).value.log2 / 3 + 1
  := by
  have hle := le_two_mul_of_holds hpos h
  have hdigits : 0 < digits := Nat.pos_of_mul_pos_right (pos_of_holds hpos h)
  have hten : 2 ^ (3 * last) ≤ digits * 10 ^ last := by
    have hbase : 2 ^ 3 ≤ 10 := by decide
    rw [Nat.pow_mul]
    apply Nat.le_trans (Nat.pow_le_pow_left hbase last)
    apply Nat.le_mul_of_pos_left _ hdigits
  have hlog : (ofDouble significand scale).value
      < 2 ^ ((ofDouble significand scale).value.log2 + 1) := Nat.lt_log2_self
  have hlt : 2 ^ (3 * last) < 2 ^ ((ofDouble significand scale).value.log2 + 2) := by
    rw [Nat.pow_succ]
    omega
  have hexponent := (Nat.pow_lt_pow_iff_right (by decide)).mp hlt
  omega

end Neighbourhood

namespace Decimal

open Binary64

variable {tie : Tie} {significand scale : Nat} {d d' : Decimal}

/-! ### Comparing decimals -/

/-- The value of a decimal is at most that of another one. -/
def AtMost (d d' : Decimal) : Prop :=
  d.num * d'.den ≤ d'.num * d.den

/-- Decimals compare as their digits do, once they have their last digit at the same place. -/
theorem atMost_of_le (i j : Nat) (hdigits : d.digits * 10 ^ i ≤ d'.digits * 10 ^ j)
    (hexponent : d.exponent - i = d'.exponent - j) :
  AtMost d d'
  := by
  have hpowers : d.exponent.toNat + (-d'.exponent).toNat + j
      = i + (d'.exponent.toNat + (-d.exponent).toNat) := by
    omega
  have hscaled := Nat.mul_le_mul_right (10 ^ (d'.exponent.toNat + (-d.exponent).toNat)) hdigits
  apply Nat.le_of_mul_le_mul_right _ (Nat.pow_pos (by decide) : 0 < 10 ^ j)
  rw [num, num, den, den]
  calc d.digits * 10 ^ d.exponent.toNat * 10 ^ (-d'.exponent).toNat * 10 ^ j
      = d.digits * 10 ^ (d.exponent.toNat + (-d'.exponent).toNat + j) := by
        rw [Nat.pow_add, Nat.pow_add]
        ring
    _ = d.digits * 10 ^ i * 10 ^ (d'.exponent.toNat + (-d.exponent).toNat) := by
        rw [hpowers, Nat.pow_add, Nat.mul_assoc]
    _ ≤ d'.digits * 10 ^ j * 10 ^ (d'.exponent.toNat + (-d.exponent).toNat) := hscaled
    _ = d'.digits * 10 ^ d'.exponent.toNat * 10 ^ (-d.exponent).toNat * 10 ^ j := by
        rw [Nat.pow_add]
        ring

theorem AtMost.units_le (h : AtMost d d') :
  d.units * d'.den ≤ d'.units * d.den
  := by
  rw [units, units, Nat.mul_right_comm, Nat.mul_right_comm d'.num]
  apply Nat.mul_le_mul_right _ h

/-- A decimal between two decimals that round to a double rounds to it as well. -/
theorem roundsTo_between {low high : Decimal} (hlow : RoundsTo low.units low.den significand scale)
    (hhigh : RoundsTo high.units high.den significand scale) (hge : AtMost low d)
    (hle : AtMost d high) :
  RoundsTo d.units d.den significand scale
  := hlow.between hhigh low.den_pos high.den_pos d.den_pos hge.units_le hle.units_le

/-! ### The fewest digits -/

/-- The number of digits of a decimal. -/
def length (d : Decimal) : Nat :=
  (Nat.toDigits 10 d.digits).length

/-- Between two decimals with their first digits at different places there is a power of ten, whose
digit stands at the place of the first digit of the larger one. -/
theorem exists_power_between (hpos : 0 < d'.digits)
    (h : d.exponent + d.length < d'.exponent + d'.length) :
  ∃ power : Decimal, power.digits = 1 ∧ power.exponent + 1 = d'.exponent + d'.length
    ∧ AtMost d power ∧ AtMost power d'
  := by
  have hlength : 0 < d.length := Nat.length_toDigits_pos
  obtain ⟨more, hmore⟩ : ∃ more, d'.length = more + 1 :=
    Nat.exists_eq_add_one.mpr Nat.length_toDigits_pos
  have hdigits : d.digits < 10 ^ d.length :=
    (Nat.length_toDigits_le_iff (by decide) hlength).mp (Nat.le_refl _)
  have hdigits' : 10 ^ more ≤ d'.digits := by
    obtain rfl | hmorepos := Nat.eq_zero_or_pos more
    · apply hpos
    · rw [← Nat.not_lt, ← Nat.length_toDigits_le_iff (by decide) hmorepos, ← length]
      omega
  obtain ⟨power, hone, hplace⟩ : ∃ power : Decimal, power.digits = 1
      ∧ power.exponent = d'.exponent + more := ⟨⟨1, _⟩, rfl, rfl⟩
  obtain ⟨gap, hgap⟩ : ∃ gap : Nat, power.exponent = d.exponent + (d.length + gap : Nat) := by
    use (power.exponent - d.exponent - d.length).toNat
    omega
  refine ⟨power, hone, by omega, ?_, ?_⟩
  · apply atMost_of_le 0 (d.length + gap)
    · rw [Nat.pow_zero, Nat.mul_one, hone, Nat.one_mul]
      apply Nat.le_of_lt (Nat.lt_of_lt_of_le hdigits _)
      apply Nat.pow_le_pow_right (by decide) (Nat.le_add_right _ _)
    · omega
  · apply atMost_of_le more 0
    · rw [Nat.pow_zero, Nat.mul_one, hone, Nat.one_mul]
      apply hdigits'
    · omega

/-- The shortest decimal of a double is not zero. -/
theorem digits_shortest_pos (tie : Tie) (scale : Nat) (hpos : 0 < significand) :
  0 < (shortest tie significand scale).digits
  := by
  obtain ⟨digits, place, hshortest, hholds⟩ := exists_holds_shortest tie scale hpos
  rw [hshortest]
  apply Nat.pos_of_mul_pos_right (Neighbourhood.pos_of_holds hpos hholds)

/-- A decimal that rounds to a double has its last digit at most at the place of the last digit of
the shortest one. -/
theorem exponent_le_of_roundsTo (tie : Tie) (hpos : 0 < significand)
    (h : RoundsTo d.units d.den significand scale) :
  d.exponent ≤ (shortest tie significand scale).exponent
  := by
  obtain ⟨digits, place, hshortest, -⟩ := exists_holds_shortest tie scale hpos
  rw [hshortest]
  obtain hbelow | ⟨last, hlast⟩ : d.exponent < -(1076 : Nat)
      ∨ ∃ last : Nat, d.exponent = (last : Int) - (1076 : Nat) := by
    obtain hlt | hge := Int.lt_or_le d.exponent (-(1076 : Nat))
    · left
      apply hlt
    · right
      use (d.exponent + (1076 : Nat)).toNat
      omega
  · simp only
    omega
  · cases d with | mk digits exponent =>
    obtain rfl : exponent = (last : Int) - (1076 : Nat) := hlast
    have hholds := (roundsTo_iff_holds (m := 1076) rfl rfl hpos).mp h
    rw [shortest, if_neg (Nat.ne_of_gt hpos)] at hshortest
    have hle := Neighbourhood.le_of_shortestBelow (Neighbourhood.holds_value hpos) hshortest
      (Neighbourhood.le_of_holds hpos hholds) hholds
    simp only
    omega

/-- No decimal with fewer digits than the shortest one rounds to the double. -/
theorem length_shortest_le (hcanonical : IsCanonical significand scale)
    (h : nearestBits d.units d.den = scale * 2 ^ 52 + significand) :
  (shortest tie significand scale).length ≤ d.length
  := by
  obtain rfl | hpos := Nat.eq_zero_or_pos significand
  · rw [shortest, if_pos rfl]
    apply Nat.length_toDigits_pos
  · have hrounds := roundsTo_of_nearestBits d.den_pos hcanonical h
    have hexponent := exponent_le_of_roundsTo tie hpos hrounds
    have hlength : 0 < d.length := Nat.length_toDigits_pos
    apply Nat.le_of_not_lt
    intro hfewer
    obtain ⟨power, -, hpower, hge, hle⟩ :=
      exists_power_between (digits_shortest_pos tie scale hpos) (d := d) (by omega)
    have hplace := exponent_le_of_roundsTo tie hpos
      (roundsTo_between hrounds (roundsTo_shortest tie scale hpos) hge hle)
    omega

end Decimal

end DeskCalculator
