import DeskCalculator.Diagnostic
import DeskCalculator.Text.Cells
import DeskCalculator.Text.Lines

/-!
# Reports

A report shows a diagnostic: its name and its statement, the lines of the expression around
the label with their numbers, the label under the middle of the character, and the advice.
-/

namespace DeskCalculator

namespace Diagnostic

/-- The characters of a text that lie wholly before a byte. -/
def charsBefore (offset : Nat) : List Char → List Char
  | [] => []
  | c :: rest =>
    if c.utf8Size ≤ offset then
      c :: charsBefore (offset - c.utf8Size) rest
    else
      []

/-- The characters of the expression before the label. -/
def before (d : Diagnostic) : List Char :=
  charsBefore d.offset d.expression.toList

/-- The characters of the expression from the label on. -/
def after (d : Diagnostic) : List Char :=
  d.expression.toList.drop d.before.length

/-- The characters that lie wholly before a byte come first in the text. -/
theorem charsBefore_append_drop (offset : Nat) (text : List Char) :
  charsBefore offset text ++ text.drop (charsBefore offset text).length = text
  := by
  induction text generalizing offset with
  | nil => rfl
  | cons c rest ih =>
    rw [charsBefore]
    split
    · rw [List.cons_append, List.length_cons, List.drop_succ_cons, ih]
    · rfl

/-- The label divides the expression. -/
theorem before_append_after (d : Diagnostic) :
  d.before ++ d.after = d.expression.toList
  := charsBefore_append_drop d.offset d.expression.toList

/-- The number of line ends before the label. -/
def linesBefore (d : Diagnostic) : Nat :=
  (Text.fullLines d.before).countP Text.isEnded

/-- The byte of its line at which the label starts. -/
def byteInLine (d : Diagnostic) : Nat :=
  let start := ((Text.fullLines d.before).drop d.linesBefore).flatten
  (start.map Char.utf8Size).foldr (· + ·) 0

/-- How many lines are shown at either side of the line with the label. -/
def margin : Nat := 2

/-- The shown characters before the label. -/
def shownBefore (d : Diagnostic) : List Char :=
  ((Text.fullLines d.before).drop (d.linesBefore - margin)).flatten

/-- The shown characters of the expression. -/
def shown (d : Diagnostic) : List Char :=
  d.shownBefore ++ ((Text.fullLines d.after).take (margin + 1)).flatten

/-- The shown lines with their numbers.  A carriage return alone stays within a shown line;
where it ends the last one, that line is not counted. -/
def numberedLines (d : Diagnostic) : List (Nat × List Char) :=
  let lines := Text.shownLines d.shown
  lines.zipIdx.map fun (line, index) =>
    let uncounted := index + 1 = lines.length ∧ d.shown.getLast? = some '\r'
    (d.linesBefore - margin + index + if uncounted then 0 else 1, line)

/-- A number of equal characters. -/
def repeated (count : Nat) (c : Char) : String :=
  String.ofList (List.replicate count c)

/-- The two lines of the label, after the given gutter: a rule under the character, and the
text of the label under the middle of the rule. -/
def labelLines (d : Diagnostic) (gutter : String) : String :=
  let left := (d.shownBefore.reverse.takeWhile (· ≠ '\n')).reverse
  let column := Text.cellCount left
  let width := max 1 (Text.cellCount (left ++ [d.character]) - column)
  let middle := width / 2
  gutter ++ repeated column ' ' ++
    repeated middle '─' ++ "┬" ++ repeated (width - middle - 1) '─' ++ "\n" ++
    gutter ++ repeated (column + middle) ' ' ++ "╰── " ++ label ++ "\n"

/-- The shown lines, and the label under its line; the numbers have `digits` digits. -/
def excerpt (d : Diagnostic) (digits : Nat) : String :=
  let labelled := d.shownBefore.count '\n'
  String.join <| d.numberedLines.zipIdx.map fun ((number, line), index) =>
    let number := toString number
    " " ++ repeated (digits - number.length) ' ' ++ number ++ " │ " ++
      String.ofList (Text.expandTabs line) ++ "\n" ++
      if index = labelled then d.labelLines (repeated (digits + 2) ' ' ++ "· ") else ""

/-- The report of a diagnostic. -/
def report (d : Diagnostic) : String :=
  let digits := match d.numberedLines.getLast? with
    | some (number, _) => (toString number).length
    | none => 1
  code ++ "\n\n" ++
    "  × " ++ d.message ++ "\n" ++
    repeated (digits + 2) ' ' ++ "╭─[input:" ++ toString (d.linesBefore + 1) ++ ":" ++
      toString (d.byteInLine + 1) ++ "]\n" ++
    d.excerpt digits ++
    repeated (digits + 2) ' ' ++ "╰────\n" ++
    "  help: " ++ help ++ "\n\n"

end Diagnostic

end DeskCalculator
