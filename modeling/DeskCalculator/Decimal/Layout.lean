import DeskCalculator.Decimal.Shortest

/-!
# Layouts

A layout says how a double is written: which of two equally near shortest decimals it
takes, which numbers are written without an exponent, whether a whole number keeps a
point, how an exponent is written, and the texts of the doubles that are no numbers.
-/

namespace DeskCalculator

/-- The decisions of a format for doubles. -/
structure Layout where
  /-- The choice between two equally near shortest decimals. -/
  tie : Tie
  /-- The powers of ten of the first digit, from the first to below the second, for which
  a number is written without an exponent; all of them if there are no bounds. -/
  positional : Option (Int × Int)
  /-- Whether a whole number without an exponent is written with `.0`. -/
  keepsPoint : Bool
  /-- The least number of digits of an exponent. -/
  exponentWidth : Nat
  /-- The text of the double that is not a number. -/
  undefined : String
  /-- The texts of the positive and the negative infinity. -/
  infinity : String × String

namespace Decimal

/-- The power of ten of the first digit of a decimal. -/
def leading (d : Decimal) : Int :=
  d.exponent + (Nat.toDigits 10 d.digits).length - 1

/-- A decimal written without an exponent. -/
def positionalChars (keepsPoint : Bool) (d : Decimal) : List Char :=
  let digits := Nat.toDigits 10 d.digits
  let before := d.leading + 1
  if before ≤ 0 then
    '0' :: '.' :: List.replicate (-before).toNat '0' ++ digits
  else if digits.length ≤ before then
    digits ++ List.replicate d.exponent.toNat '0' ++ (if keepsPoint then ['.', '0'] else [])
  else
    digits.take before.toNat ++ '.' :: digits.drop before.toNat

/-- An exponent: its sign and at least `width` digits. -/
def exponentChars (width : Nat) (e : Int) : List Char :=
  let digits := Nat.toDigits 10 e.natAbs
  (if e < 0 then '-' else '+') :: List.replicate (width - digits.length) '0' ++ digits

/-- A decimal written with one digit before the point and an exponent. -/
def scientificChars (width : Nat) (d : Decimal) : List Char :=
  let mantissa :=
    match Nat.toDigits 10 d.digits with
    | [] => []
    | [digit] => [digit]
    | digit :: rest => digit :: '.' :: rest
  mantissa ++ 'e' :: exponentChars width d.leading

end Decimal

namespace Layout

/-- Whether a decimal is written without an exponent. -/
def isPositional (layout : Layout) (d : Decimal) : Bool :=
  match layout.positional with
  | none => true
  | some (least, bound) => d.digits == 0 || (least ≤ d.leading && d.leading < bound)

/-- The characters of a decimal. -/
def decimalChars (layout : Layout) (d : Decimal) : List Char :=
  if layout.isPositional d then
    d.positionalChars layout.keepsPoint
  else
    d.scientificChars layout.exponentWidth

/-- The text of a double. -/
def text (layout : Layout) (x : Float) : String :=
  match Binary64.contents x with
  | .undefined => layout.undefined
  | .infinite negative => if negative then layout.infinity.2 else layout.infinity.1
  | .finite negative significand scale =>
    let digits := layout.decimalChars (Decimal.shortest layout.tie significand scale)
    String.ofList (if negative then '-' :: digits else digits)

/-- The layout of a number among the tokens of an expression: never an exponent. -/
def plain : Layout where
  tie := .up
  positional := none
  keepsPoint := false
  exponentWidth := 1
  undefined := "NaN"
  infinity := ("inf", "-inf")

/-- The layout of a result: a whole number keeps its point, and an exponent has a sign and
at least two digits. -/
def result : Layout where
  tie := .up
  positional := some (-4, 16)
  keepsPoint := true
  exponentWidth := 2
  undefined := "nan"
  infinity := ("inf", "-inf")

/-- The layout of a number in a record: what is no finite number is written `null`. -/
def record : Layout where
  tie := .even
  positional := some (-5, 16)
  keepsPoint := true
  exponentWidth := 1
  undefined := "null"
  infinity := ("null", "null")

end Layout

end DeskCalculator
