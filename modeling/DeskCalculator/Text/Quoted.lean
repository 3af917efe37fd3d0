import DeskCalculator.Text.Quoted.Table

/-!
# Quoted texts

A text between quotation marks, as it stands in log lines and messages.  A quotation mark,
a backslash and the common controls are written with a backslash and one character; every
other character that is not printable is written by its code point in braces.
-/

namespace DeskCalculator.Text

/-- A code point in lower-case hexadecimal digits. -/
def hexChars (code : Nat) : List Char :=
  Nat.toDigits 16 code

/-- A character within a quoted text. -/
def quoteChar (c : Char) : List Char :=
  match c with
  | '"' => ['\\', '"']
  | '\\' => ['\\', '\\']
  | '\n' => ['\\', 'n']
  | '\r' => ['\\', 'r']
  | '\t' => ['\\', 't']
  | '\x00' => ['\\', '0']
  | _ =>
    if unprintableCodes.contains c then
      ['\\', 'u', '\x7b'] ++ hexChars c.toNat ++ ['\x7d']
    else
      [c]

/-- A text between quotation marks. -/
def quote (text : String) : String :=
  String.ofList ('"' :: text.toList.flatMap quoteChar ++ ['"'])

end DeskCalculator.Text
