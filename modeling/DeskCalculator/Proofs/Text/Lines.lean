import DeskCalculator.Text.Blank
import DeskCalculator.Text.Lines
import Mathlib.Data.List.Forall2
import Mathlib.Data.List.TakeWhile

/-!
# Lines of a text

Lines that are joined with line feeds, with a mark behind each of them or not, are the lines of
what they make up (`lines_intercalate_mark`, `lines_intercalate_append`).  A text without line
ends is a single line, with its end and as it is shown (`IsLine.fullLines_eq`,
`IsLine.shownLines_eq`).

A line that is cut off at its line feed still ends with the carriage return that may stand
before it.  A carriage return is white space, so trimmed lines are the same, be they cut off
at line feeds or at either kind of line end (`map_trim_lines`).
-/

namespace DeskCalculator.Text

/-! ### Line feeds -/

/-- Characters without a line feed are a line if a line feed follows. -/
theorem lines_append_lineFeed_cons {line : List Char} (h : '\n' ∉ line) (rest : List Char) :
  lines (line ++ '\n' :: rest) = line :: lines rest
  := by
  induction line with
  | nil => rw [List.nil_append, lines, if_pos rfl]
  | cons c line ih =>
    rw [List.mem_cons, not_or] at h
    obtain ⟨hc, hline⟩ := h
    rw [List.cons_append, lines, if_neg (Ne.symm hc), ih hline]

/-- Lines that are joined with a line feed and a mark are lines of the text, the first of them
behind what stands before it and the others behind the mark. -/
theorem lines_intercalate_mark {mark start line : List Char} {later : List (List Char)}
    (hmark : '\n' ∉ mark) (hstart : '\n' ∉ start) (h : ∀ part ∈ line :: later, '\n' ∉ part)
    (rest : List Char) :
  lines (start ++ ('\n' :: mark).intercalate (line :: later) ++ '\n' :: rest)
    = (start ++ line) :: later.map (mark ++ ·) ++ lines rest
  := by
  induction later generalizing start line with
  | nil =>
    have hline := List.not_mem_append hstart (h line List.mem_cons_self)
    rw [List.intercalate_singleton, lines_append_lineFeed_cons hline]
    rfl
  | cons next later ih =>
    obtain ⟨hline, hlater⟩ := List.forall_mem_cons.mp h
    have htext : start ++ ('\n' :: mark).intercalate (line :: next :: later) ++ '\n' :: rest
        = (start ++ line)
          ++ '\n' :: (mark ++ ('\n' :: mark).intercalate (next :: later) ++ '\n' :: rest) := by
      rw [List.intercalate_cons_of_ne_nil (List.cons_ne_nil next later)]
      simp only [List.append_assoc, List.cons_append]
    rw [htext, lines_append_lineFeed_cons (List.not_mem_append hstart hline), ih hmark hlater,
      List.map_cons, List.cons_append]
    rfl

/-- Lines that are joined with line feeds, and a line feed behind them, are lines of the text. -/
theorem lines_intercalate_append {shown : List (List Char)} (hne : shown ≠ [])
    (h : ∀ line ∈ shown, '\n' ∉ line) (rest : List Char) :
  lines (['\n'].intercalate shown ++ '\n' :: rest) = shown ++ lines rest
  := by
  obtain ⟨line, later, rfl⟩ := List.exists_cons_of_ne_nil hne
  have hlines := @lines_intercalate_mark [] [] line later List.not_mem_nil List.not_mem_nil h rest
  simp only [List.nil_append, List.map_id'] at hlines
  apply hlines

/-- What is in none of the parts and not between them is not in all of it. -/
theorem not_mem_intercalate {c : Char} {sep : List Char} {parts : List (List Char)}
    (hsep : c ∉ sep) (hparts : ∀ part ∈ parts, c ∉ part) :
  c ∉ sep.intercalate parts
  := by
  induction parts with
  | nil => apply List.not_mem_nil
  | cons part rest ih =>
    obtain ⟨hpart, hrest⟩ := List.forall_mem_cons.mp hparts
    by_cases hnil : rest = []
    · subst hnil
      rw [List.intercalate_singleton]
      apply hpart
    · rw [List.intercalate_cons_of_ne_nil hnil, List.mem_append, List.mem_append]
      rintro ((hmem | hmem) | hmem)
      · exact hpart hmem
      · exact hsep hmem
      · exact ih hrest hmem

/-- A shown line has no line feed. -/
theorem lineFeed_not_mem_of_mem_shownLines {text line : List Char} (h : line ∈ shownLines text) :
  '\n' ∉ line
  := by
  fun_induction shownLines text generalizing line with
  | case1 => cases h
  | case2 rest ih =>
    obtain rfl | hlater := List.mem_cons.mp h
    · apply List.not_mem_nil
    · apply ih hlater
  | case3 rest _ ih =>
    obtain rfl | hlater := List.mem_cons.mp h
    · apply List.not_mem_nil
    · apply ih hlater
  | case4 c rest _ hc _ _ =>
    obtain rfl := List.mem_singleton.mp h
    rw [List.mem_singleton]
    apply Ne.symm hc
  | case5 c rest _ hc first later hshown ih =>
    rw [hshown] at ih
    obtain rfl | hlater := List.mem_cons.mp h
    · rw [List.mem_cons, not_or]
      exact ⟨Ne.symm hc, ih List.mem_cons_self⟩
    · apply ih (List.mem_cons_of_mem _ hlater)

/-! ### Texts of one line -/

/-- A text without line ends. -/
structure IsLine (text : List Char) : Prop where
  lineFeed_not_mem : '\n' ∉ text
  return_not_mem : '\r' ∉ text

namespace IsLine

variable {text : List Char}

/-- What has no other characters than a line is a line. -/
theorem of_subset {part : List Char} (h : IsLine text) (hpart : part ⊆ text) :
  IsLine part
  := ⟨fun hmem => h.lineFeed_not_mem (hpart hmem), fun hmem => h.return_not_mem (hpart hmem)⟩

theorem tail {c : Char} {rest : List Char} (h : IsLine (c :: rest)) :
  IsLine rest
  := h.of_subset (List.subset_cons_self c rest)

theorem isEnded_eq_false (h : IsLine text) :
  isEnded text = false
  := by
  rw [isEnded, decide_eq_false_iff_not, List.mem_cons, List.mem_singleton]
  rintro (hlast | hlast)
  · exact h.lineFeed_not_mem (List.mem_of_getLast? hlast)
  · exact h.return_not_mem (List.mem_of_getLast? hlast)

theorem fullLines_eq (h : IsLine text) (hne : text ≠ []) :
  fullLines text = [text]
  := by
  fun_induction fullLines text with
  | case1 => exact absurd rfl hne
  | case2 rest ih => exact absurd List.mem_cons_self h.return_not_mem
  | case3 c rest _ hc ih =>
    obtain rfl | rfl := hc
    · exact absurd List.mem_cons_self h.lineFeed_not_mem
    · exact absurd List.mem_cons_self h.return_not_mem
  | case4 c rest _ hc hnil ih =>
    have hrest := flatten_fullLines rest
    rw [hnil] at hrest
    rw [← hrest]
    rfl
  | case5 c rest _ hc line later hcons ih =>
    have hrest : rest ≠ [] := by
      rintro rfl
      cases hcons
    rw [ih h.tail hrest] at hcons
    obtain ⟨rfl, rfl⟩ := List.cons.inj hcons
    rfl

theorem shownLines_eq (h : IsLine text) (hne : text ≠ []) :
  shownLines text = [text]
  := by
  fun_induction shownLines text with
  | case1 => exact absurd rfl hne
  | case2 rest ih => exact absurd List.mem_cons_self h.return_not_mem
  | case3 rest _ ih => exact absurd List.mem_cons_self h.lineFeed_not_mem
  | case4 c rest _ hc hnil ih =>
    obtain rfl : rest = [] := by
      by_contra hrest
      rw [ih h.tail hrest] at hnil
      cases hnil
    rfl
  | case5 c rest _ hc line later hcons ih =>
    have hrest : rest ≠ [] := by
      rintro rfl
      cases hcons
    rw [ih h.tail hrest] at hcons
    obtain ⟨rfl, rfl⟩ := List.cons.inj hcons
    rfl

end IsLine

/-! ### Trimmed lines -/

/-- A trimmed text has no other characters than the text. -/
theorem mem_of_mem_trim {c : Char} {text : List Char} (h : c ∈ trim text) :
  c ∈ text
  := by
  rw [trim, List.mem_reverse] at h
  have hkept := List.mem_reverse.mp ((List.dropWhile_suffix isBlank).subset h)
  apply (List.dropWhile_suffix isBlank).subset hkept

/-- White space at the end of a text is trimmed. -/
theorem trim_append_of_isBlank (text : List Char) {gap : List Char}
    (hgap : ∀ c ∈ gap, isBlank c) :
  trim (text ++ gap) = trim text
  := by
  rw [trim, trim, List.dropWhile_append]
  split
  · next hempty =>
    rw [List.isEmpty_iff.mp hempty, List.dropWhile_eq_nil_iff.mpr hgap]
  · have hreverse : ∀ c ∈ gap.reverse, isBlank c := fun c hc => hgap c (List.mem_reverse.mp hc)
    rw [List.reverse_append, List.dropWhile_append_of_pos hreverse]

/-- A text is its trimmed text between white space. -/
theorem exists_eq_append_trim (text : List Char) :
  ∃ back, (∀ c ∈ back, isBlank c) ∧ text = text.takeWhile isBlank ++ trim text ++ back
  := by
  have htext := List.takeWhile_append_dropWhile (p := isBlank) (l := text)
  rw [trim]
  generalize text.dropWhile isBlank = rest at htext ⊢
  have hrest := List.takeWhile_append_dropWhile (p := isBlank) (l := rest.reverse)
  rw [← List.reverse_inj, List.reverse_append, List.reverse_reverse] at hrest
  use (rest.reverse.takeWhile isBlank).reverse
  constructor
  · intro c hc
    exact List.mem_takeWhile_imp (List.mem_reverse.mp hc)
  · rw [List.append_assoc, hrest, htext]

/-- A line with the mark that may be a part of its end. -/
def WithEnd (mark : Char) (shown line : List Char) : Prop :=
  line = shown ∨ line = shown ++ [mark]

theorem WithEnd.cons {mark : Char} {shown line : List Char} (h : WithEnd mark shown line)
    (c : Char) :
  WithEnd mark (c :: shown) (c :: line)
  := by
  obtain rfl | rfl := h
  · left
    rfl
  · right
    rfl

/-- White space that marks the end of a line is trimmed. -/
theorem WithEnd.trim_eq {mark : Char} {shown line : List Char} (h : WithEnd mark shown line)
    (hmark : isBlank mark) :
  trim line = trim shown
  := by
  obtain rfl | rfl := h
  · rfl
  · apply trim_append_of_isBlank
    intro c hc
    obtain rfl := List.mem_singleton.mp hc
    apply hmark

/-- Lines with marks at their ends are the same trimmed lines. -/
theorem map_trim_of_forall₂ {mark : Char} {shown lines : List (List Char)} (hmark : isBlank mark)
    (h : List.Forall₂ (WithEnd mark) shown lines) :
  lines.map trim = shown.map trim
  := by
  apply Eq.symm
  rw [← List.forall₂_eq_eq_eq, List.forall₂_map_left_iff, List.forall₂_map_right_iff]
  apply h.imp
  intro shown line hend
  apply (hend.trim_eq hmark).symm

/-- The lines of a text are the shown ones with the carriage returns of their ends. -/
theorem forall₂_withEnd_lines (text : List Char) :
  List.Forall₂ (WithEnd '\r') (shownLines text) (lines text)
  := by
  fun_induction shownLines text with
  | case1 => exact .nil
  | case2 rest ih =>
    have hlines : lines ('\r' :: '\n' :: rest) = ['\r'] :: lines rest := rfl
    rw [hlines]
    exact .cons (Or.inr rfl) ih
  | case3 rest _ ih =>
    rw [lines, if_pos rfl]
    exact .cons (Or.inl rfl) ih
  | case4 c rest _ hc hnil ih =>
    rw [hnil] at ih
    rw [lines, if_neg hc, List.forall₂_nil_left_iff.mp ih]
    exact .cons (Or.inl rfl) .nil
  | case5 c rest _ hc shown later hcons ih =>
    rw [hcons] at ih
    obtain ⟨line, others, hline, hothers, hlines⟩ := List.forall₂_cons_left_iff.mp ih
    rw [lines, if_neg hc, hlines]
    exact .cons (hline.cons c) hothers

/-- The trimmed lines of a text are its trimmed shown lines. -/
theorem map_trim_lines (text : List Char) :
  (lines text).map trim = (shownLines text).map trim
  := map_trim_of_forall₂ rfl (forall₂_withEnd_lines text)

end DeskCalculator.Text
