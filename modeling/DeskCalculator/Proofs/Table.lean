import DeskCalculator.Proofs.Text.Lines
import DeskCalculator.Table
import Mathlib.Tactic.Use

/-!
# Lines of tables

A table whose cells have no line feeds has one line for each row, between the lines of its
heading and its border (`lines_text_append`).  The line of a row shows its cells in full, with
spaces around each of them (`shows_row`).
-/

namespace DeskCalculator.Table

variable {widths : List Nat} {line : String} {cells : List String} {table : Table}

/-! ### Cells -/

/-- A cell with one space before it and at least one behind it. -/
def IsPadded (cell shown : String) : Prop :=
  ∃ gap, shown = " " ++ cell ++ String.ofList (List.replicate gap ' ') ++ " "

/-- A line between the two sides of the border that shows cells with spaces around them. -/
def Shows (line : String) (cells : List String) : Prop :=
  ∃ shown, List.Forall₂ IsPadded cells shown ∧ line = "│" ++ " ".intercalate shown ++ "│"

/-- The line of a row shows the cells if there is a width for each of them. -/
theorem shows_row (h : widths.length = cells.length) :
  Shows (row widths cells) cells
  := by
  refine ⟨_, ?_, rfl⟩
  induction widths generalizing cells with
  | nil =>
    obtain rfl := List.length_eq_zero_iff.mp h.symm
    exact .nil
  | cons width widths ih =>
    obtain ⟨cell, later, rfl⟩ := List.exists_cons_of_length_eq_add_one h.symm
    rw [List.zipWith_cons_cons]
    refine .cons ⟨width - Text.width cell.toList, ?_⟩ (ih (Nat.succ.inj h))
    rw [Text.padTo, String.ofList_append, String.ofList_toList, ← String.append_assoc]

/-- A table whose rows are as long as its heading has one width for each cell. -/
theorem length_widths (h : ∀ cells ∈ table.rows, cells.length = table.heading.length) :
  table.widths.length = table.heading.length
  := by
  have hwiden : ∀ (rows : List (List String)) (widths : List Nat),
      (∀ cells ∈ rows, cells.length = widths.length) →
        (rows.foldl widen widths).length = widths.length := by
    intro rows
    induction rows with
    | nil => exact fun _ _ => rfl
    | cons cells rows ih =>
      intro widths hrows
      obtain ⟨hcells, hrest⟩ := List.forall_mem_cons.mp hrows
      have hlength : (widen widths cells).length = widths.length := by
        rw [widen, List.length_zipWith, hcells, Nat.min_self]
      rw [List.foldl_cons, ih _ (by rwa [hlength]), hlength]
  rw [Table.widths, hwiden _ _ (by rwa [List.length_map]), List.length_map]

/-! ### Lines -/

/-- A horizontal line is one line. -/
theorem lineFeed_not_mem_rule {left middle right : Char} (h : '\n' ∉ [left, middle, right])
    (widths : List Nat) :
  '\n' ∉ (rule left middle right widths).toList
  := by
  rw [rule, String.toList_ofList]
  intro hmem
  apply h
  simp only [List.cons_append, List.mem_cons, List.mem_append, List.mem_replicate] at hmem ⊢
  tauto

/-- A line that shows cells without line feeds is one line. -/
theorem Shows.lineFeed_not_mem (h : Shows line cells)
    (hcells : ∀ cell ∈ cells, '\n' ∉ cell.toList) :
  '\n' ∉ line.toList
  := by
  obtain ⟨shown, hpadded, rfl⟩ := h
  have hshown : ∀ text ∈ shown, '\n' ∉ text.toList := by
    induction hpadded with
    | nil => apply List.forall_mem_nil
    | @cons cell text cells shown hcell _ ih =>
      obtain ⟨hfirst, hrest⟩ := List.forall_mem_cons.mp hcells
      refine List.forall_mem_cons.mpr ⟨?_, ih hrest⟩
      obtain ⟨gap, rfl⟩ := hcell
      simp [hfirst]
  simp only [String.toList_append, String.toList_intercalate, List.mem_append, not_or]
  refine ⟨⟨by decide, ?_⟩, by decide⟩
  apply Text.not_mem_intercalate (by decide)
  exact List.forall_mem_map.mpr hshown

/-- A table whose cells have no line feeds has the lines of its border, its heading and its rows,
and what stands behind it begins on a new line. -/
theorem lines_text_append (hlength : ∀ cells ∈ table.rows, cells.length = table.heading.length)
    (hcells : ∀ cells ∈ table.heading :: table.rows, ∀ cell ∈ cells, '\n' ∉ cell.toList)
    (rest : String) :
  Text.lines (table.text ++ "\n" ++ rest).toList
    = table.lines.map String.toList ++ Text.lines rest.toList
  := by
  have hrow : ∀ cells ∈ table.heading :: table.rows, '\n' ∉ (row table.widths cells).toList := by
    intro cells hmem
    apply Shows.lineFeed_not_mem (shows_row _) (hcells cells hmem)
    rw [length_widths hlength]
    obtain rfl | hmem := List.mem_cons.mp hmem
    · rfl
    · apply (hlength cells hmem).symm
  obtain ⟨hheading, hrows⟩ := List.forall_mem_cons.mp hrow
  have hlines : ∀ line ∈ table.lines.map String.toList, '\n' ∉ line := by
    have hrule : ∀ left middle right, '\n' ∉ [left, middle, right] →
        '\n' ∉ (rule left middle right table.widths).toList :=
      fun _ _ _ h => lineFeed_not_mem_rule h _
    simp only [lines, List.forall_mem_map, List.forall_mem_append, List.forall_mem_cons]
    refine ⟨⟨⟨hrule _ _ _ (by decide), hheading, hrule _ _ _ (by decide), by simp⟩, hrows⟩,
      hrule _ _ _ (by decide), by simp⟩
  have htext : (table.text ++ "\n" ++ rest).toList
      = ['\n'].intercalate (table.lines.map String.toList) ++ '\n' :: rest.toList := by
    rw [text, String.toList_append, String.toList_append, String.toList_intercalate]
    simp
  rw [htext, Text.lines_intercalate_append (by simp [lines]) hlines]

end DeskCalculator.Table
