import DeskCalculator.Decimal

/-!
# Shortest decimals

The shortest decimal of a double is the one with the fewest digits among the decimals
that round to it, and among those the nearest to it.

Everything is counted in units of `10 ^ (-1076)`, in which a double, and the halfway
points to the doubles next to it, are whole numbers.  The decimals with their last digit
at a given place are the multiples of a power of ten.  Some multiple rounds to the double
only if one of the two multiples next to the double does, so the search tries these two
at each place, from the leftmost place on, and stops at the first place where one of them
rounds to the double.  At the last place the double is a multiple itself.
-/

namespace DeskCalculator

/-- Which of two decimals is taken when both are equally near. -/
inductive Tie where
  /-- The larger one. -/
  | up
  /-- The one with an even last digit. -/
  | even
deriving DecidableEq, Repr

/-- A positive double among the numbers that round to it: those between `lower` and
`upper`, the two ends included if the neighbourhood is closed. -/
structure Neighbourhood where
  value : Nat
  lower : Nat
  upper : Nat
  closed : Bool

namespace Neighbourhood

/-- Whether a number rounds to the double. -/
def holds (n : Neighbourhood) (x : Nat) : Bool :=
  if n.closed then
    n.lower ≤ x && x ≤ n.upper
  else
    n.lower < x && x < n.upper

/-- The neighbourhood of the double `significand * 2 ^ scale`.  The double below a power
of two is at half the distance of the one above, except at the lowest scale; a number
halfway between two doubles rounds to the even significand. -/
def ofDouble (significand scale : Nat) : Neighbourhood :=
  let quarter := Nat.pow 2 scale * Nat.pow 5 1076
  let below := if significand = Nat.pow 2 52 ∧ scale ≠ 0 then 1 else 2
  { value := 4 * significand * quarter
    lower := (4 * significand - below) * quarter
    upper := (4 * significand + 2) * quarter
    closed := significand % 2 = 0 }

/-- The multiplier of the multiple of `step` that is nearest to the double, if one of the
two multiples next to it rounds to it. -/
def multiplier? (tie : Tie) (n : Neighbourhood) (step : Nat) : Option Nat :=
  let below := n.value / step
  let rest := n.value % step
  match n.holds (below * step), n.holds ((below + 1) * step) with
  | false, false => none
  | true, false => some below
  | false, true => some (below + 1)
  | true, true =>
    if 2 * rest < step then
      some below
    else if step < 2 * rest then
      some (below + 1)
    else
      match tie with
      | .up => some (below + 1)
      | .even => some (if below % 2 = 0 then below else below + 1)

/-- The shortest decimal with its last digit at most at the given place. -/
def shortestBelow (tie : Tie) (n : Neighbourhood) : Nat → Decimal
  | 0 => ⟨n.value, -1076⟩
  | place + 1 =>
    match n.multiplier? tie (Nat.pow 10 (place + 1)) with
    | some digits => ⟨digits, (place + 1 : Nat) - 1076⟩
    | none => n.shortestBelow tie place

/-- The shortest decimal of the double.  No power of ten rounds to it from a place above
the first one tried, as ten exceeds the third power of two. -/
def shortest (tie : Tie) (n : Neighbourhood) : Decimal :=
  n.shortestBelow tie (n.value.log2 / 3 + 1)

end Neighbourhood

/-- The shortest decimal of the double `significand * 2 ^ scale`; zero has the digit `0`. -/
def Decimal.shortest (tie : Tie) (significand scale : Nat) : Decimal :=
  if significand = 0 then
    ⟨0, 0⟩
  else
    (Neighbourhood.ofDouble significand scale).shortest tie

end DeskCalculator
