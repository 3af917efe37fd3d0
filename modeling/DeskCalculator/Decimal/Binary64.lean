/-!
# Doubles as multiples of a unit

Every finite double is, up to its sign, a whole multiple of the unit `2 ^ (-1074)`: its
magnitude is `significand * 2 ^ scale` units, with a significand below `2 ^ 53`.
`contents` reads this off the bits.  In the other direction `nearest` is the double
nearest to a ratio of whole numbers of units; halfway between two doubles the one with
the even significand is taken, and a ratio too large for the format gives infinity.

The bits of a finite magnitude are `scale * 2 ^ 52 + significand`, so that the magnitudes
are numbered in increasing order, and a significand that rounds up to `2 ^ 53` is carried
into the scale by the addition itself.
-/

namespace DeskCalculator.Binary64

/-- What a double holds. -/
inductive Contents where
  /-- Not a number. -/
  | undefined
  /-- An infinity of the given sign. -/
  | infinite (negative : Bool)
  /-- A finite double of the given sign, of `significand * 2 ^ scale` units. -/
  | finite (negative : Bool) (significand scale : Nat)
deriving DecidableEq, Repr

/-- The contents of a double, read off its bits. -/
def contents (x : Float) : Contents :=
  let bits := x.toBits.toNat
  let negative := decide (Nat.pow 2 63 ≤ bits)
  let exponent := bits / Nat.pow 2 52 % Nat.pow 2 11
  let fraction := bits % Nat.pow 2 52
  if exponent = 2047 then
    if fraction = 0 then .infinite negative else .undefined
  else if exponent = 0 then
    .finite negative fraction 0
  else
    .finite negative (Nat.pow 2 52 + fraction) (exponent - 1)

/-- The quotient of two whole numbers rounded to the nearest whole number, a half to the
even neighbour. -/
def roundHalfEven (num den : Nat) : Nat :=
  let quotient := num / den
  let rest := num % den
  if 2 * rest < den ∨ (2 * rest = den ∧ quotient % 2 = 0) then quotient else quotient + 1

/-- The bits of positive infinity, which follow those of the largest finite double. -/
def infinityBits : Nat :=
  2047 * Nat.pow 2 52

/-- The bits of the double nearest to `num / den` units. -/
def nearestBits (num den : Nat) : Nat :=
  let scale := (num / den).log2 - 52
  min infinityBits (scale * Nat.pow 2 52 + roundHalfEven num (den * Nat.pow 2 scale))

/-- The double nearest to `num / den` units. -/
def nearest (num den : Nat) : Float :=
  Float.ofBits (nearestBits num den).toUInt64

end DeskCalculator.Binary64
