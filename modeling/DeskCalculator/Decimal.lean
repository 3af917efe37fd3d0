import DeskCalculator.Decimal.Binary64

/-!
# Decimals

A decimal is a whole number of digits together with a power of ten.  It is read from a
run of digits before the point and one after it, and its value as a double is the double
nearest to it.
-/

namespace DeskCalculator

/-- The number `digits * 10 ^ exponent`. -/
structure Decimal where
  digits : Nat
  exponent : Int
deriving DecidableEq, Repr

namespace Decimal

/-- The decimal written with the digits `whole` before the point and `fraction` after it. -/
def ofDigits (whole fraction : List Char) : Decimal where
  digits := Nat.ofDigitChars 10 (whole ++ fraction) 0
  exponent := -(fraction.length : Int)

/-- The double nearest to a decimal. -/
def toFloat (d : Decimal) : Float :=
  let units := d.digits * Nat.pow 2 1074
  if 0 ≤ d.exponent then
    Binary64.nearest (units * Nat.pow 10 d.exponent.toNat) 1
  else
    Binary64.nearest units (Nat.pow 10 (-d.exponent).toNat)

end Decimal

end DeskCalculator
