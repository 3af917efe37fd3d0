import DeskCalculator.Postfix
import DeskCalculator.Postfix.Value
import DeskCalculator.Token.Scan

/-!
# Expressions

The value of an expression in infix order: its tokens are read, brought into postfix order
and reduced.
-/

namespace DeskCalculator.Expression

/-- The tokens of a text, read strictly or leniently. -/
def tokens (strict : Bool) (text : String) : Except Fault (List Token) :=
  if strict then Token.scanStrict text else .ok (Token.scan text)

/-- The value of a text, read strictly or leniently. -/
def value (strict : Bool) (text : String) : Except Fault Float := do
  Postfix.value (Postfix.ofTokens (← tokens strict text))

end DeskCalculator.Expression
