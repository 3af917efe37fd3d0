import DeskCalculator.Decimal.Layout
import DeskCalculator.Text.Quoted

/-!
# JSON records

A record is a list of named fields that hold texts and numbers.  It is written as a JSON
object with one field a line, and several records as a JSON array of objects; each level
is indented by two spaces.
-/

namespace DeskCalculator.Json

/-- The content of a field. -/
inductive Scalar where
  | text (content : String)
  | number (value : Float)

/-- A list of named fields, in the order in which they are written. -/
abbrev Record := List (String × Scalar)

/-- A character within a JSON string: a quotation mark, a backslash and a control character
are escaped, by a letter where there is one and by their code point otherwise. -/
def escapeChar (c : Char) : List Char :=
  match c with
  | '"' => ['\\', '"']
  | '\\' => ['\\', '\\']
  | '\x08' => ['\\', 'b']
  | '\x0c' => ['\\', 'f']
  | '\n' => ['\\', 'n']
  | '\r' => ['\\', 'r']
  | '\t' => ['\\', 't']
  | _ =>
    if c.toNat < 0x20 then
      let digits := Text.hexChars c.toNat
      ['\\', 'u'] ++ List.replicate (4 - digits.length) '0' ++ digits
    else
      [c]

/-- A JSON string. -/
def string (content : String) : String :=
  String.ofList ('"' :: content.toList.flatMap escapeChar ++ ['"'])

/-- The JSON form of the content of a field. -/
def Scalar.json : Scalar → String
  | text content => string content
  | number x => Layout.record.text x

/-- The JSON object of a record within lines that are indented by `margin`. -/
def Record.json (margin : String) (record : Record) : String :=
  let lines := record.map fun (name, content) =>
    margin ++ "  " ++ string name ++ ": " ++ content.json
  "\x7b\n" ++ ",\n".intercalate lines ++ "\n" ++ margin ++ "\x7d"

/-- The JSON array of the objects of several records. -/
def array (records : List Record) : String :=
  if records.isEmpty then
    "[]"
  else
    "[\n" ++ ",\n".intercalate (records.map fun record => "  " ++ record.json "  ") ++ "\n]"

end DeskCalculator.Json
