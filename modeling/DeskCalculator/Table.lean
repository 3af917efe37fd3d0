import DeskCalculator.Text.Width

/-!
# Tables

A table has a heading and rows of cells.  It is drawn within a border, with a double line
under the heading; a column is as wide as its widest cell.
-/

namespace DeskCalculator

/-- A heading and rows of cells. -/
structure Table where
  heading : List String
  rows : List (List String)

namespace Table

/-- The widths of the columns that hold the cells of a row and have at least the given
widths. -/
def widen (widths : List Nat) (row : List String) : List Nat :=
  List.zipWith (fun width cell => max width (Text.width cell.toList)) widths row

/-- The widths of the columns. -/
def widths (table : Table) : List Nat :=
  table.rows.foldl widen (table.heading.map fun cell => Text.width cell.toList)

/-- The number of columns between the two sides of the border. -/
def innerWidth (widths : List Nat) : Nat :=
  (widths.map (· + 2)).foldr (· + ·) 0 + (widths.length - 1)

/-- A horizontal line of the border. -/
def rule (left middle right : Char) (widths : List Nat) : String :=
  String.ofList (left :: List.replicate (innerWidth widths) middle ++ [right])

/-- A row between the two sides of the border. -/
def row (widths : List Nat) (cells : List String) : String :=
  let padded := List.zipWith
    (fun width cell => " " ++ String.ofList (Text.padTo width cell.toList) ++ " ") widths cells
  "│" ++ " ".intercalate padded ++ "│"

/-- The lines of a table. -/
def lines (table : Table) : List String :=
  let widths := table.widths
  [rule '┌' '─' '┐' widths, row widths table.heading, rule '╞' '═' '╡' widths] ++
    table.rows.map (row widths) ++
    [rule '└' '─' '┘' widths]

/-- The text of a table. -/
def text (table : Table) : String :=
  "\n".intercalate table.lines

end Table

end DeskCalculator
