import DeskCalculator.Proofs.Text.Paragraph
import DeskCalculator.Text.Cells

/-!
# Printed lines

A line is printed with spaces in place of its tabs.  What is printed before a character then takes
the columns that are counted before it (`shownWidth_expandTabs`, `exists_expandTabs_append`), and
a line without tabs is printed as it is (`expandTabs_of_not_mem`).
-/

namespace DeskCalculator.Text

/-- What is printed for a character with its columns. -/
def cellText : Char × Nat → List Char
  | (c, columns) => if c = '\t' then List.replicate columns ' ' else [c]

theorem cellText_of_ne {c : Char} (hc : c ≠ '\t') (columns : Nat) :
  cellText (c, columns) = [c]
  := if_neg hc

theorem expandTabs_eq (line : List Char) :
  expandTabs line = (cells line).flatMap cellText
  := rfl

variable {c : Char} {before line : List Char}

/-! ### Lines without tabs -/

/-- A line without tabs is printed as it is, wherever it starts. -/
theorem flatMap_cellText_cellsFrom (h : '\t' ∉ line) (column : Nat) (escaped : Bool) :
  (cellsFrom column escaped line).flatMap cellText = line
  := by
  have hcells : ∀ cell ∈ cellsFrom column escaped line, cellText cell = [cell.1] := by
    intro cell hcell
    apply cellText_of_ne
    intro htab
    apply h
    rw [← htab, ← map_fst_cellsFrom column escaped line]
    apply List.mem_map_of_mem hcell
  rw [List.flatMap_congr hcells, ← List.map_eq_flatMap, map_fst_cellsFrom]

theorem expandTabs_of_not_mem (h : '\t' ∉ line) :
  expandTabs line = line
  := flatMap_cellText_cellsFrom h 0 false

/-! ### Columns -/

/-- The number of columns of cells. -/
def columnCount (cells : List (Char × Nat)) : Nat :=
  (cells.map Prod.snd).foldr (· + ·) 0

theorem columnCount_cons (cell : Char × Nat) (rest : List (Char × Nat)) :
  columnCount (cell :: rest) = cell.2 + columnCount rest
  := rfl

/-- The columns that a character takes behind a number of columns. -/
def columnsAt (column : Nat) (c : Char) : Nat :=
  if c = '\t' then 4 - column % 4 else shownCharWidth c

theorem shownWidth_replicate_space (columns : Nat) :
  shownWidth (List.replicate columns ' ') = columns
  := by
  have hspace : shownCharWidth ' ' = 1 := by decide
  rw [shownWidth, List.map_replicate, hspace]
  apply Eq.trans List.sum_replicate_nat (Nat.mul_one columns)

/-- The columns of what is printed for a character are the columns that it takes. -/
theorem shownWidth_cellText (column : Nat) (c : Char) :
  shownWidth (cellText (c, columnsAt column c)) = columnsAt column c
  := by
  by_cases hc : c = '\t'
  · rw [cellText, if_pos hc, shownWidth_replicate_space]
  · rw [cellText_of_ne hc, columnsAt, if_neg hc]
    rfl

theorem cellsFrom_cons_of_ne (hc : c ≠ '\x1b') (column : Nat) (rest : List Char) :
  cellsFrom column false (c :: rest)
    = (c, columnsAt column c) :: cellsFrom (column + columnsAt column c) false rest
  := by
  rw [cellsFrom, if_neg Bool.false_ne_true, if_neg hc]
  rfl

/-- Behind a line without a command to the terminal the cells go on in the next column. -/
theorem cellsFrom_append (h : '\x1b' ∉ before) (column : Nat) (after : List Char) :
  cellsFrom column false (before ++ after)
    = cellsFrom column false before
      ++ cellsFrom (column + columnCount (cellsFrom column false before)) false after
  := by
  induction before generalizing column with
  | nil => rfl
  | cons c rest ih =>
    rw [List.mem_cons, not_or] at h
    obtain ⟨hc, hrest⟩ := h
    rw [List.cons_append, cellsFrom_cons_of_ne (Ne.symm hc), cellsFrom_cons_of_ne (Ne.symm hc),
      ih hrest, columnCount_cons, Nat.add_assoc, List.cons_append]

theorem cells_append (h : '\x1b' ∉ before) (after : List Char) :
  cells (before ++ after) = cells before ++ cellsFrom (cellCount before) false after
  := by
  rw [cells, cellsFrom_append h, Nat.zero_add]
  rfl

theorem shownWidth_flatMap_cellText (h : '\x1b' ∉ line) (column : Nat) :
  shownWidth ((cellsFrom column false line).flatMap cellText)
    = columnCount (cellsFrom column false line)
  := by
  induction line generalizing column with
  | nil => rfl
  | cons c rest ih =>
    rw [List.mem_cons, not_or] at h
    obtain ⟨hc, hrest⟩ := h
    rw [cellsFrom_cons_of_ne (Ne.symm hc), List.flatMap_cons, shownWidth_append,
      shownWidth_cellText, ih hrest, columnCount_cons]

/-- A line without a command to the terminal is printed in as many columns as are counted. -/
theorem shownWidth_expandTabs (h : '\x1b' ∉ line) :
  shownWidth (expandTabs line) = cellCount line
  := shownWidth_flatMap_cellText h 0

/-- A character other than a tab takes its own columns. -/
theorem exists_cellsFrom_cons (hc : c ≠ '\t') (column : Nat) (rest : List Char) :
  ∃ escaped, cellsFrom column false (c :: rest)
    = (c, shownCharWidth c) :: cellsFrom (column + shownCharWidth c) escaped rest
  := by
  by_cases hescape : c = '\x1b'
  · subst hescape
    use true
    rfl
  · use false
    rw [cellsFrom_cons_of_ne hescape, columnsAt, if_neg hc]

theorem cellCount_append_singleton (h : '\x1b' ∉ before) (hc : c ≠ '\t') :
  cellCount (before ++ [c]) = cellCount before + shownCharWidth c
  := by
  obtain ⟨escaped, hcell⟩ := exists_cellsFrom_cons hc (cellCount before) []
  rw [cellCount, cells_append h, hcell, List.map_append]
  apply List.sum_append

/-- A character other than a tab is printed behind what is printed for the text before it. -/
theorem exists_expandTabs_append (h : '\x1b' ∉ before) (hc : c ≠ '\t') (after : List Char) :
  ∃ printed, expandTabs (before ++ c :: after) = expandTabs before ++ c :: printed
    ∧ ('\t' ∉ after → printed = after)
  := by
  obtain ⟨escaped, hcell⟩ := exists_cellsFrom_cons hc (cellCount before) after
  use (cellsFrom (cellCount before + shownCharWidth c) escaped after).flatMap cellText
  constructor
  · rw [expandTabs_eq, cells_append h, hcell, List.flatMap_append, List.flatMap_cons,
      cellText_of_ne hc]
    rfl
  · intro htab
    apply flatMap_cellText_cellsFrom htab

end DeskCalculator.Text
