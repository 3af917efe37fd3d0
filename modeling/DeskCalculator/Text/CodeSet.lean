/-!
# Sets of code points

A set of code points is given by the points at which membership changes, in increasing
order; the code points before the first of them are outside.
-/

namespace DeskCalculator.Text

/-- A set of code points. -/
structure CodeSet where
  /-- The first code point inside, the first one outside after it, and so on. -/
  bounds : List Nat

namespace CodeSet

/-- Whether a code point lies inside the given bounds. -/
def within (code : Nat) : List Nat → Bool
  | [] => false
  | [first] => first ≤ code
  | first :: stop :: rest =>
    if code < first then
      false
    else
      code < stop || within code rest

/-- Whether a character belongs to a set. -/
def contains (set : CodeSet) (c : Char) : Bool :=
  within c.toNat set.bounds

end CodeSet

/-- Whether a character is one of those from one code point up to another. -/
def isFrom (first last : Nat) (c : Char) : Bool :=
  first ≤ c.toNat && c.toNat ≤ last

end DeskCalculator.Text
