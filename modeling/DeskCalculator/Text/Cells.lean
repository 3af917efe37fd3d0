import DeskCalculator.Text.Width.Character

/-!
# Cells

The columns that the characters of a line take on a terminal.  A tab fills the line up to
the next column that is a multiple of four.  An escape starts a command to the terminal;
nothing of it is shown up to the letter `m` that ends it.
-/

namespace DeskCalculator.Text

/-- The characters of a line from a column on, each with its number of columns; `escaped`
tells whether the line goes on with the rest of a command. -/
def cellsFrom (column : Nat) (escaped : Bool) : List Char → List (Char × Nat)
  | [] => []
  | c :: rest =>
    if escaped then
      (c, 0) :: cellsFrom column (c ≠ 'm') rest
    else if c = '\x1b' then
      (c, 0) :: cellsFrom column true rest
    else
      let columns := if c = '\t' then 4 - column % 4 else shownCharWidth c
      (c, columns) :: cellsFrom (column + columns) false rest

/-- The characters of a line, each with its number of columns. -/
def cells (line : List Char) : List (Char × Nat) :=
  cellsFrom 0 false line

/-- The number of columns of a line. -/
def cellCount (line : List Char) : Nat :=
  ((cells line).map Prod.snd).foldr (· + ·) 0

/-- A line with spaces in place of its tabs. -/
def expandTabs (line : List Char) : List Char :=
  (cells line).flatMap fun (c, columns) =>
    if c = '\t' then List.replicate columns ' ' else [c]

/-- The cells of a line keep its characters in their order. -/
theorem map_fst_cellsFrom (column : Nat) (escaped : Bool) (line : List Char) :
  (cellsFrom column escaped line).map Prod.fst = line
  := by
  induction line generalizing column escaped with
  | nil => rfl
  | cons c rest ih =>
    simp only [cellsFrom]
    split
    · simp [ih]
    · split
      · simp [ih]
      · simp [ih]

end DeskCalculator.Text
