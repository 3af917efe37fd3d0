import DeskCalculator.Operator
import DeskCalculator.Decimal.Layout

/-!
# Tokens

The classified pieces of an expression: numbers, operators and the two parentheses.
-/

namespace DeskCalculator

/-- A piece of an expression. -/
inductive Token where
  | number (value : Float)
  | operator (op : Operator)
  /-- The parenthesis `(`. -/
  | opening
  /-- The parenthesis `)`. -/
  | closing
deriving DecidableEq

namespace Token

/-- The text of a token; a number has the plain layout. -/
def text : Token → String
  | number x => Layout.plain.text x
  | operator op => op.symbol.toString
  | opening => "("
  | closing => ")"

/-- The texts of a list of tokens with one space between neighbours. -/
def listText (tokens : List Token) : String :=
  " ".intercalate (tokens.map text)

end Token

end DeskCalculator
