import DeskCalculator.Text.Width.Table

/-!
# Widths of characters

The number of terminal columns that a character takes on its own: none for a character that
joins the one before it, two for a wide one and one for almost every other.  A control takes
a column where texts are measured, but a terminal does not show it.
-/

namespace DeskCalculator.Text

/-- The number of columns of a character. -/
def charWidth (c : Char) : Nat :=
  if zeroWidthCodes.contains c then
    0
  else if doubleWidthCodes.contains c then
    2
  else if c = '\u17d8' then
    3
  else
    1

/-- Whether a character is a control. -/
def isControl (c : Char) : Bool :=
  c.toNat < 0x20 || (0x7f ≤ c.toNat && c.toNat < 0xa0)

/-- The number of columns that a terminal shows of a character; a control is not shown. -/
def shownCharWidth (c : Char) : Nat :=
  if isControl c then 0 else charWidth c

/-- The number of columns that a terminal shows of the characters of a text, each on its
own. -/
def shownWidth (text : List Char) : Nat :=
  (text.map shownCharWidth).foldr (· + ·) 0

end DeskCalculator.Text
