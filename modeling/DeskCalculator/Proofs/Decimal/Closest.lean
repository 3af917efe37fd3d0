import DeskCalculator.Proofs.Decimal.Fewest

/-!
# Shortest decimals are the nearest of their length

Where the search for the shortest decimal ends, it takes the multiple of the power of ten that is
nearest to the double among those that round to the double (`natAbs_shortestBelow_le`).  A decimal
with as many digits that ends at a lower place is below a power of ten that rounds to the double.
Then the shortest decimal has one digit, and the power of ten is nearer than the other decimal: a
double below the power would have to be so small that only the double of two units is left, and
there it holds by the numbers (`distance_shortest_le`).
-/

namespace DeskCalculator

namespace Neighbourhood

variable {n : Neighbourhood} {tie : Tie} {step digits other place : Nat}

/-! ### The end of the search -/

/-- No multiple that rounds to the double is nearer to it than the one that the search takes. -/
theorem natAbs_multiplier?_le (hvalue : n.holds n.value) (hstep : 0 < step)
    (hdigits : n.multiplier? tie step = some digits) (h : n.holds (other * step)) :
  ((digits * step : Nat) - n.value : Int).natAbs ≤ ((other * step : Nat) - n.value : Int).natAbs
  := by
  have hbelow : n.value / step * step + n.value % step = n.value := Nat.div_add_mod' _ _
  have hrest : n.value % step < step := Nat.mod_lt _ hstep
  have habove : (n.value / step + 1) * step = n.value / step * step + step := Nat.succ_mul _ _
  have hother : other * step ≤ n.value / step * step
      ∨ (n.value / step + 1) * step ≤ other * step := by
    obtain hle | hlt : other ≤ n.value / step ∨ n.value / step + 1 ≤ other := by omega
    · exact Or.inl (Nat.mul_le_mul_right step hle)
    · exact Or.inr (Nat.mul_le_mul_right step hlt)
  have hholdsBelow : other * step ≤ n.value / step * step → n.holds (n.value / step * step) :=
    fun hle => holds_between h hvalue hle (by omega)
  have hholdsAbove : (n.value / step + 1) * step ≤ other * step →
      n.holds ((n.value / step + 1) * step) :=
    fun hle => holds_between hvalue h (by omega) hle
  simp only [multiplier?] at hdigits
  split at hdigits
  · cases hdigits
  · next hnotabove =>
    cases hdigits
    rw [hnotabove] at hholdsAbove
    obtain hle | hle := hother
    · omega
    · cases hholdsAbove hle
  · next hnotbelow _ =>
    cases hdigits
    rw [hnotbelow] at hholdsBelow
    obtain hle | hle := hother
    · cases hholdsBelow hle
    · omega
  · split at hdigits
    · cases hdigits
      omega
    · split at hdigits
      · cases hdigits
        omega
      · split at hdigits
        · cases hdigits
          omega
        · cases hdigits
          split <;> omega

/-- No number that rounds to the double and has its last digit where the search ends is nearer to
the double than the decimal that the search finds. -/
theorem natAbs_shortestBelow_le {found last : Nat} (hvalue : n.holds n.value)
    (hfound : n.shortestBelow tie place = ⟨found, (last : Int) - (1076 : Nat)⟩)
    (h : n.holds (other * 10 ^ last)) :
  ((found * 10 ^ last : Nat) - n.value : Int).natAbs
    ≤ ((other * 10 ^ last : Nat) - n.value : Int).natAbs
  := by
  induction place with
  | zero =>
    obtain ⟨rfl, hlast⟩ := Decimal.mk.inj hfound
    obtain rfl : last = 0 := by omega
    rw [Nat.pow_zero, Nat.mul_one]
    omega
  | succ place ih =>
    rw [shortestBelow] at hfound
    cases hmultiplier : n.multiplier? tie (Nat.pow 10 (place + 1)) with
    | some multiplier =>
      rw [hmultiplier] at hfound
      obtain ⟨rfl, hlast⟩ := Decimal.mk.inj hfound
      obtain rfl : last = place + 1 := by omega
      apply natAbs_multiplier?_le hvalue (Nat.pow_pos (by decide)) hmultiplier h
    | none =>
      rw [hmultiplier] at hfound
      apply ih hfound

end Neighbourhood

namespace Decimal

open Binary64

variable {tie : Tie} {significand scale : Nat} {d d' : Decimal}

/-! ### Distances -/

/-- The number that a decimal stands for, counted in the unit of doubles. -/
def inUnits (d : Decimal) : ℚ :=
  d.units / d.den

/-- The distance of a decimal from a double, counted in the unit of doubles. -/
def distance (d : Decimal) (significand scale : Nat) : ℚ :=
  |d.inUnits - significand * 2 ^ scale|

theorem inUnits_mul_den (d : Decimal) :
  d.inUnits * d.den = d.units
  := by
  have hden : (d.den : ℚ) ≠ 0 := Nat.cast_ne_zero.mpr (Nat.ne_of_gt d.den_pos)
  rw [inUnits, div_mul_cancel₀ _ hden]

theorem AtMost.inUnits_le (h : AtMost d d') :
  d.inUnits ≤ d'.inUnits
  := by
  have hden : (0 : ℚ) < d.den := Nat.cast_pos.mpr d.den_pos
  have hden' : (0 : ℚ) < d'.den := Nat.cast_pos.mpr d'.den_pos
  rw [inUnits, inUnits, div_le_div_iff₀ hden hden']
  exact_mod_cast h.units_le

/-- A decimal that rounds to a double is at most half a unit of its scale away. -/
theorem distance_le (h : RoundsTo d.units d.den significand scale) :
  d.distance significand scale ≤ 2 ^ scale / 2
  := by
  have hden : (0 : ℚ) < d.den := Nat.cast_pos.mpr d.den_pos
  have hbelow : quartersBelow significand scale * (d.den * 2 ^ scale) ≤ 2 * (d.den * 2 ^ scale) :=
    Nat.mul_le_mul_right _ (quartersBelow_le significand scale)
  have hlower : ((4 * significand * (d.den * 2 ^ scale) : Nat) : ℚ)
      ≤ (4 * d.units + 2 * (d.den * 2 ^ scale) : Nat) := by
    exact_mod_cast Nat.le_trans h.lower (Nat.add_le_add_left hbelow _)
  have hupper : ((4 * d.units : Nat) : ℚ)
      ≤ ((4 * significand + 2) * (d.den * 2 ^ scale) : Nat) := by
    exact_mod_cast h.upper
  push_cast at hlower hupper
  rw [← d.inUnits_mul_den] at hlower hupper
  rw [distance, abs_le]
  constructor
  · apply le_of_mul_le_mul_right _ hden
    linarith
  · apply le_of_mul_le_mul_right _ hden
    linarith

/-- The number that a decimal stands for, counted in units of `10 ^ (-m)`. -/
theorem inUnits_mul_five {m n : Nat} (hm : m = n + 2) (hn : n = 1074) (digits place : Nat) :
  (⟨digits, place - m⟩ : Decimal).inUnits * (4 * 5 ^ m : Nat) = (digits * 10 ^ place : Nat)
  := by
  have hden : ((⟨digits, place - m⟩ : Decimal).den : ℚ) ≠ 0 :=
    Nat.cast_ne_zero.mpr (Nat.ne_of_gt (den_pos _))
  have hmul : ((digits * 10 ^ place * (⟨digits, place - m⟩ : Decimal).den : Nat) : ℚ)
      = (4 * (⟨digits, place - m⟩ : Decimal).units * 5 ^ m : Nat) :=
    congrArg Nat.cast (mul_den_eq digits place hm hn)
  apply mul_right_cancel₀ hden
  rw [← Nat.cast_mul, hmul, Nat.mul_right_comm, Nat.cast_mul (4 * 5 ^ m), ← inUnits_mul_den]
  ring

/-- The distance of a decimal, counted in units of `10 ^ (-m)`. -/
theorem distance_mul_five {m n : Nat} (hm : m = n + 2) (hn : n = 1074) (digits place : Nat)
    (significand scale : Nat) :
  (⟨digits, place - m⟩ : Decimal).distance significand scale * (4 * 5 ^ m : Nat)
    = ((digits * 10 ^ place : Nat)
        - (Neighbourhood.ofDouble significand scale).value : Int).natAbs
  := by
  have hplaces : m = 1076 := by omega
  have hvalue : (Neighbourhood.ofDouble significand scale).value
      = significand * 2 ^ scale * (4 * 5 ^ m) := by
    rw [Neighbourhood.value_ofDouble, ← hplaces, Neighbourhood.quarter, Nat.pow_eq]
    ring
  have habs : ∀ x : ℚ, |x| * (4 * 5 ^ m : Nat) = |x * (4 * 5 ^ m : Nat)| := by
    intro x
    rw [abs_mul, Nat.abs_cast]
  rw [distance, habs, sub_mul, inUnits_mul_five hm hn, hvalue, Nat.cast_natAbs, Int.cast_abs]
  push_cast
  rfl

/-! ### The nearest among the shortest -/

/-- A decimal with more digits in front is as many times as large. -/
theorem inUnits_mul (k : Nat) (d : Decimal) :
  (⟨k * d.digits, d.exponent⟩ : Decimal).inUnits = k * d.inUnits
  := by
  rw [inUnits, inUnits, units, units, num, num, den, den]
  generalize Nat.pow 2 1074 = unit
  push_cast
  ring

/-- No decimal that rounds to a double and ends where its shortest decimal ends is nearer to it. -/
theorem distance_shortest_le_of_exponent (hpos : 0 < significand)
    (h : RoundsTo d.units d.den significand scale)
    (hexponent : d.exponent = (shortest tie significand scale).exponent) :
  (shortest tie significand scale).distance significand scale ≤ d.distance significand scale
  := by
  obtain ⟨digits, place, hshortest, -⟩ := exists_holds_shortest tie scale hpos
  rw [hshortest] at hexponent ⊢
  cases d with | mk other exponent =>
  obtain rfl : exponent = (place : Int) - (1076 : Nat) := hexponent
  have hholds := (roundsTo_iff_holds (m := 1076) rfl rfl hpos).mp h
  rw [shortest, if_neg (Nat.ne_of_gt hpos)] at hshortest
  have hle := Neighbourhood.natAbs_shortestBelow_le (Neighbourhood.holds_value hpos) hshortest
    hholds
  have hfive : (0 : ℚ) < (4 * 5 ^ 1076 : Nat) := Nat.cast_pos.mpr (by positivity)
  apply le_of_mul_le_mul_right _ hfive
  rw [distance_mul_five (m := 1076) rfl rfl, distance_mul_five (m := 1076) rfl rfl]
  exact_mod_cast hle

/-- The only power of ten between one unit of doubles and ten of them is just above two units. -/
theorem two_lt_power {x : ℚ} {place : Nat} (hx : x * (4 * 5 ^ 1076 : Nat) = (10 ^ place : Nat))
    (hone : 1 < x) (hten : x ≤ 10) :
  2 < x ∧ 100 * x < 203
  := by
  have hlower : 2 * (4 * 5 ^ 1076) < 10 ^ 753 := by decide +kernel
  have hupper : 100 * 10 ^ 753 < 203 * (4 * 5 ^ 1076) := by decide +kernel
  have hpos : 0 < 4 * 5 ^ 1076 := by positivity
  generalize 4 * 5 ^ 1076 = unit at hx hlower hupper hpos
  have hunit : (0 : ℚ) < unit := Nat.cast_pos.mpr hpos
  have habove : unit < 10 ^ place := by
    have hmul := mul_lt_mul_of_pos_right hone hunit
    rw [hx, one_mul] at hmul
    exact_mod_cast hmul
  have hbelow : 10 ^ place ≤ 10 * unit := by
    have hmul := mul_le_mul_of_nonneg_right hten (le_of_lt hunit)
    rw [hx] at hmul
    exact_mod_cast hmul
  obtain rfl : place = 753 := by
    have hgt : 752 < place := by
      apply (Nat.pow_lt_pow_iff_right (a := 10) (by decide)).mp
      omega
    have hlt : place < 754 := by
      apply (Nat.pow_lt_pow_iff_right (a := 10) (by decide)).mp
      omega
    omega
  constructor
  · apply lt_of_mul_lt_mul_right _ (le_of_lt hunit)
    rw [hx]
    exact_mod_cast hlower
  · apply lt_of_mul_lt_mul_right _ (le_of_lt hunit)
    rw [mul_assoc, hx]
    exact_mod_cast hupper

/-- A power of ten that is above a double and rounds to it is nearer to the double than a decimal
that is smaller by a tenth at least and rounds to it, too.  Only the double of two units is so
coarse. -/
theorem distance_power_le {power : Decimal} {place : Nat}
    (hcanonical : IsCanonical significand scale) (hpos : 0 < significand) (hone : power.digits = 1)
    (hplace : power.exponent = (place : Int) - (1076 : Nat))
    (hpower : RoundsTo power.units power.den significand scale)
    (hd : RoundsTo d.units d.den significand scale)
    (hnine : 10 * d.inUnits ≤ 9 * power.inUnits)
    (habove : significand * 2 ^ scale < power.inUnits) :
  power.distance significand scale ≤ d.distance significand scale
  := by
  have hpowerClose := abs_le.mp (distance_le hpower)
  have hclose := abs_le.mp (distance_le hd)
  have hcoarse : power.inUnits ≤ 10 * 2 ^ scale := by linarith
  have hsignificand : significand < 10 := by
    have hscale : (0 : ℚ) < 2 ^ scale := by positivity
    have hlt : (significand : ℚ) < 10 := by
      apply lt_of_mul_lt_mul_right _ (le_of_lt hscale)
      linarith
    exact_mod_cast hlt
  obtain rfl : scale = 0 := by
    obtain hle | hscale := hcanonical.le_significand_or
    · omega
    · apply hscale
  have hfive : power.inUnits * (4 * 5 ^ 1076 : Nat) = (10 ^ place : Nat) := by
    cases power with | mk digits exponent =>
    obtain rfl : digits = 1 := hone
    obtain rfl : exponent = (place : Int) - (1076 : Nat) := hplace
    rw [inUnits_mul_five (m := 1076) rfl rfl, Nat.one_mul]
  rw [pow_zero] at hpowerClose hclose hcoarse habove
  have hge : (1 : ℚ) ≤ significand := Nat.one_le_cast.mpr hpos
  obtain ⟨htwo, hthree⟩ := two_lt_power hfive (by linarith) (by linarith)
  have hsecond : (2 : ℚ) ≤ significand := by
    have hlt : (1 : ℚ) < significand := by linarith
    exact_mod_cast hlt
  rw [distance, distance, pow_zero, mul_one, abs_of_pos (sub_pos.mpr (by linarith))]
  apply le_trans _ (neg_le_abs _)
  linarith

/-- A decimal with one digit that ends before a power of ten is smaller by a tenth at least. -/
theorem ten_mul_inUnits_le {power : Decimal} (hone : power.digits = 1) (hlength : d.length = 1)
    (hexponent : d.exponent < power.exponent) :
  10 * d.inUnits ≤ 9 * power.inUnits
  := by
  have hdigits : d.digits < 10 ^ 1 :=
    (Nat.length_toDigits_le_iff (by decide) (by decide)).mp (Nat.le_of_eq hlength)
  obtain ⟨gap, hgap⟩ : ∃ gap : Nat, power.exponent = d.exponent + (gap + 1 : Nat) := by
    use (power.exponent - d.exponent - 1).toNat
    omega
  have hmost : AtMost ⟨10 * d.digits, d.exponent⟩ ⟨9 * power.digits, power.exponent⟩ := by
    apply atMost_of_le 0 (gap + 1)
    · have hgappos : 0 < 10 ^ gap := Nat.pow_pos (by decide)
      simp only [hone, Nat.pow_zero, Nat.pow_succ]
      omega
    · simp only
      omega
  have hle := hmost.inUnits_le
  rw [inUnits_mul, inUnits_mul] at hle
  exact_mod_cast hle

/-- No decimal with at most as many digits as the shortest one is nearer to the double, if it rounds
to it. -/
theorem distance_shortest_le (hcanonical : IsCanonical significand scale)
    (h : nearestBits d.units d.den = scale * 2 ^ 52 + significand)
    (hlength : d.length ≤ (shortest tie significand scale).length) :
  (shortest tie significand scale).distance significand scale ≤ d.distance significand scale
  := by
  obtain rfl | hpos := Nat.eq_zero_or_pos significand
  · have hzero : (shortest tie 0 scale).distance 0 scale = 0 := by
      rw [shortest, if_pos rfl, distance, inUnits, units_eq_zero (Nat.zero_mul _)]
      simp
    rw [hzero]
    apply abs_nonneg
  · have hrounds := roundsTo_of_nearestBits d.den_pos hcanonical h
    obtain hlt | heq := Int.lt_or_eq_of_le (exponent_le_of_roundsTo tie hpos hrounds)
    · obtain ⟨power, hone, hpower, hge, hle⟩ :=
        exists_power_between (digits_shortest_pos tie scale hpos) (d := d) (by omega)
      have hpowerRounds := roundsTo_between hrounds (roundsTo_shortest tie scale hpos) hge hle
      have hplace := exponent_le_of_roundsTo tie hpos hpowerRounds
      have hdlength : 0 < d.length := Nat.length_toDigits_pos
      -- a power of ten that ends no later than the shortest decimal is all of its first digit
      have hsame : power.exponent = (shortest tie significand scale).exponent := by omega
      apply le_trans (distance_shortest_le_of_exponent hpos hpowerRounds hsame)
      obtain habove | hbelow := lt_or_ge (significand * 2 ^ scale : ℚ) power.inUnits
      · obtain ⟨digits, place, hshortest, -⟩ := exists_holds_shortest tie scale hpos
        apply distance_power_le hcanonical hpos hone _ hpowerRounds hrounds _ habove
        · exact place
        · rw [hsame, hshortest]
        · apply ten_mul_inUnits_le hone (by omega) (by omega)
      · have hdle := hge.inUnits_le
        rw [distance, distance, abs_of_nonpos (sub_nonpos.mpr hbelow),
          abs_of_nonpos (sub_nonpos.mpr (le_trans hdle hbelow))]
        linarith
    · apply distance_shortest_le_of_exponent hpos hrounds heq

end Decimal

end DeskCalculator
