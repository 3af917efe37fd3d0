import DeskCalculator.Fault
import DeskCalculator.Token.Scan

/-!
# Diagnostics

A diagnostic points at the character that a strict reading has refused.  Its label is given
in bytes: it starts at the offset of the fault, or at the end of the expression if the
offset lies beyond, and it is as long as the character.
-/

namespace DeskCalculator

/-- A refused character and its place in an expression. -/
structure Diagnostic where
  expression : String
  character : Char
  /-- The byte at which the label starts. -/
  offset : Nat
deriving DecidableEq

namespace Diagnostic

/-- The diagnostic of a fault, if the fault has a place in the expression. -/
def ofFault? (expression : String) : Fault → Option Diagnostic
  | .unexpectedCharacter c offset => some ⟨expression, c, min offset expression.utf8ByteSize⟩
  | _ => none

/-- The number of bytes of the label. -/
def length (d : Diagnostic) : Nat :=
  d.character.utf8Size

/-- The statement of a diagnostic. -/
def message (d : Diagnostic) : String :=
  "unexpected character '" ++ d.character.toString ++ "' in expression"

/-- The name of the diagnostic. -/
def code : String :=
  "stackcalc::unexpected_character"

/-- The advice of a diagnostic. -/
def help : String :=
  "strict mode accepts digits, '.', + - * / ( ) and whitespace"

/-- The text of the label. -/
def label : String :=
  "not part of an expression"

end Diagnostic

end DeskCalculator
