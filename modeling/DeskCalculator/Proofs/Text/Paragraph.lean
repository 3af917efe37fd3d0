import DeskCalculator.Text.Paragraph
import Mathlib.Data.List.Basic
import Mathlib.Data.List.TakeWhile

/-!
# Lines of a paragraph

Nothing of a text is lost when it is broken into lines but the spaces at the breaks: the lines,
each with its spaces behind it, make up the text (`exists_words_of_wrap`).  The words do so,
since a part of the text is a word with its spaces and a word that is cut is its pieces
(`flatMap_text_words`), and a line takes its words as they are.

Where there is room for each character, no line is wider than it may be
(`shownWidth_le_of_mem_wrap`).
-/

namespace DeskCalculator.Text

namespace Word

/-- The text of a word and the spaces after it. -/
def text (word : Word) : List Char :=
  word.letters ++ List.replicate word.spaces ' '

/-- A part of a text is the text of its word. -/
theorem text_ofPart (part : List Char) :
  (ofPart part).text = part
  := by
  have hspaces : part.reverse.takeWhile (· = ' ')
      = List.replicate (part.reverse.takeWhile (· = ' ')).length ' ' := by
    apply List.eq_replicate_of_mem
    intro c hc
    simpa using List.mem_takeWhile_imp hc
  rw [text, ofPart, ← List.reverse_replicate, ← hspaces, ← List.reverse_append,
    List.takeWhile_append_dropWhile, List.reverse_reverse]

variable {cut : List Char → List (List Char)} {word piece : Word}

theorem pieces_of_eq_nil (hcut : cut word.letters = []) :
  word.pieces cut = [⟨[], word.spaces⟩]
  := by
  rw [pieces, hcut]
  rfl

theorem pieces_of_eq_append {init : List (List Char)} {last : List Char}
    (hcut : cut word.letters = init ++ [last]) :
  word.pieces cut = init.map (⟨·, 0⟩) ++ [⟨last, word.spaces⟩]
  := by
  rw [pieces, hcut, List.dropLast_concat, List.getLastD_concat]

/-- The pieces of a word are its text if the pieces of its letters are the letters. -/
theorem flatMap_text_pieces (h : ∀ letters, (cut letters).flatten = letters) (word : Word) :
  (word.pieces cut).flatMap text = word.text
  := by
  have hletters := h word.letters
  rw [text]
  obtain hcut | ⟨init, last, hcut⟩ := List.eq_nil_or_concat' (cut word.letters)
  · rw [hcut] at hletters
    rw [pieces_of_eq_nil hcut, ← hletters]
    apply List.append_nil
  · rw [hcut, List.flatten_append, List.flatten_singleton] at hletters
    have hinit : init.flatMap (fun letters => text ⟨letters, 0⟩) = init.flatten := by
      simp [text]
    rw [pieces_of_eq_append hcut, List.flatMap_append, List.flatMap_map, hinit,
      List.flatMap_singleton, text, ← List.append_assoc, hletters]

/-- The letters of a piece are a piece of the letters, if there are any. -/
theorem letters_of_mem_pieces (h : piece ∈ word.pieces cut) :
  piece.letters ∈ cut word.letters ∨ piece.letters = []
  := by
  obtain hcut | ⟨init, last, hcut⟩ := List.eq_nil_or_concat' (cut word.letters)
  · rw [pieces_of_eq_nil hcut] at h
    obtain rfl := List.mem_singleton.mp h
    right
    rfl
  · rw [pieces_of_eq_append hcut, List.mem_append, List.mem_map, List.mem_singleton] at h
    left
    rw [hcut, List.mem_append, List.mem_singleton]
    obtain ⟨letters, hletters, rfl⟩ | rfl := h
    · left
      apply hletters
    · right
      rfl

end Word

/-! ### Words -/

/-- Words that are cut are the text that they were. -/
theorem flatMap_text_flatMap_pieces {cut : List Char → List (List Char)}
    (h : ∀ letters, (cut letters).flatten = letters) (words : List Word) :
  (words.flatMap (Word.pieces cut)).flatMap Word.text = words.flatMap Word.text
  := by
  rw [List.flatMap_assoc]
  congr 1
  funext word
  apply Word.flatMap_text_pieces h

/-- The words of a text make up the text. -/
theorem flatMap_text_words (columns : Nat) (text : List Char) :
  (words columns text).flatMap Word.text = text
  := by
  rw [words, flatMap_text_flatMap_pieces (flatten_fullPieces columns []),
    flatMap_text_flatMap_pieces (flatten_hyphenPieces ' '), List.flatMap_map]
  simp only [Word.text_ofPart]
  rw [List.flatMap_id', flatten_joinHyphenated, flatten_unbreakableParts]

/-! ### Lines -/

/-- A line and the spaces behind it, and the words that follow, are the lines with the spaces
that are left out behind them. -/
theorem exists_words_of_wrapAfter (columns : Nat) (line : List Char) (spaces : Nat)
    (rest : List Word) :
  ∃ shown : List Word, shown.map Word.letters = wrapAfter columns line spaces rest
    ∧ shown.flatMap Word.text = Word.text ⟨line, spaces⟩ ++ rest.flatMap Word.text
  := by
  induction rest generalizing line spaces with
  | nil => exact ⟨[⟨line, spaces⟩], rfl, rfl⟩
  | cons word rest ih =>
    rw [wrapAfter]
    split
    · obtain ⟨shown, hletters, htext⟩ :=
        ih (line ++ List.replicate spaces ' ' ++ word.letters) word.spaces
      use shown, hletters
      rw [htext]
      simp only [Word.text, List.flatMap_cons, List.append_assoc]
    · obtain ⟨shown, hletters, htext⟩ := ih word.letters word.spaces
      use ⟨line, spaces⟩ :: shown
      constructor
      · rw [List.map_cons, hletters]
      · rw [List.flatMap_cons, htext, List.flatMap_cons, Word.text]

/-- The lines of a paragraph are its text but for the spaces at the breaks. -/
theorem exists_words_of_wrap (columns : Nat) (text : List Char) :
  ∃ shown : List Word, shown.map Word.letters = wrap columns text
    ∧ shown.flatMap Word.text = text
  := by
  have hwords := flatMap_text_words columns text
  rw [wrap]
  cases hcons : words columns text with
  | nil =>
    rw [hcons] at hwords
    exact ⟨[], rfl, hwords⟩
  | cons word rest =>
    rw [hcons, List.flatMap_cons] at hwords
    obtain ⟨shown, hletters, htext⟩ :=
      exists_words_of_wrapAfter columns word.letters word.spaces rest
    use shown, hletters
    rw [htext, ← hwords]

/-- A line of a paragraph has no other characters than the text. -/
theorem mem_of_mem_wrap {columns : Nat} {text line : List Char} {c : Char}
    (hline : line ∈ wrap columns text) (hc : c ∈ line) :
  c ∈ text
  := by
  obtain ⟨shown, hletters, htext⟩ := exists_words_of_wrap columns text
  rw [← hletters, List.mem_map] at hline
  obtain ⟨word, hword, rfl⟩ := hline
  rw [← htext, List.mem_flatMap]
  use word, hword
  apply List.mem_append_left _ hc

/-! ### Widths -/

theorem shownWidth_append (before after : List Char) :
  shownWidth (before ++ after) = shownWidth before + shownWidth after
  := by
  rw [shownWidth, shownWidth, shownWidth, List.map_append]
  apply List.sum_append

/-- No character takes more than three columns. -/
theorem shownCharWidth_le_three (c : Char) :
  shownCharWidth c ≤ 3
  := by
  rw [shownCharWidth, charWidth]
  split_ifs <;> decide

variable {columns : Nat} {text line : List Char}

/-- Where there is room for each character, a word is cut into pieces for which there is room. -/
theorem shownWidth_le_of_mem_fullPieces (hcolumns : 3 ≤ columns) {piece : List Char}
    (hpiece : shownWidth piece ≤ columns) (h : line ∈ fullPieces columns piece text) :
  shownWidth line ≤ columns
  := by
  induction text generalizing piece with
  | nil =>
    obtain rfl := List.mem_singleton.mp h
    apply hpiece
  | cons c rest ih =>
    have hc : shownWidth [c] ≤ columns := Nat.le_trans (shownCharWidth_le_three c) hcolumns
    rw [fullPieces] at h
    by_cases hfull : 0 < shownWidth piece && columns < shownWidth (piece ++ [c])
    · rw [if_pos hfull] at h
      obtain rfl | h := List.mem_cons.mp h
      · apply hpiece
      · apply ih hc h
    · rw [if_neg hfull] at h
      apply ih _ h
      simp only [Bool.and_eq_true, decide_eq_true_eq, not_and, Nat.not_lt] at hfull
      by_cases hempty : shownWidth piece = 0
      · rw [shownWidth_append, hempty, Nat.zero_add]
        apply hc
      · apply hfull (Nat.pos_of_ne_zero hempty)

/-- Where there is room for each character, there is room for each word. -/
theorem shownWidth_letters_le_of_mem_words (hcolumns : 3 ≤ columns) {word : Word}
    (h : word ∈ words columns text) :
  shownWidth word.letters ≤ columns
  := by
  rw [words, List.mem_flatMap] at h
  obtain ⟨whole, -, hpiece⟩ := h
  obtain hmem | hnil := Word.letters_of_mem_pieces hpiece
  · have hempty : shownWidth [] ≤ columns := Nat.zero_le columns
    apply shownWidth_le_of_mem_fullPieces hcolumns hempty hmem
  · rw [hnil]
    apply Nat.zero_le

theorem shownWidth_le_of_mem_wrapAfter {start : List Char} {spaces : Nat} {rest : List Word}
    (hstart : shownWidth start ≤ columns)
    (hrest : ∀ word ∈ rest, shownWidth word.letters ≤ columns)
    (h : line ∈ wrapAfter columns start spaces rest) :
  shownWidth line ≤ columns
  := by
  induction rest generalizing start spaces with
  | nil =>
    obtain rfl := List.mem_singleton.mp h
    apply hstart
  | cons word rest ih =>
    obtain ⟨hword, hlater⟩ := List.forall_mem_cons.mp hrest
    rw [wrapAfter] at h
    by_cases hroom : shownWidth (start ++ List.replicate spaces ' ' ++ word.letters) ≤ columns
    · apply ih hroom hlater
      rwa [if_pos hroom] at h
    · rw [if_neg hroom] at h
      obtain rfl | h := List.mem_cons.mp h
      · apply hstart
      · apply ih hword hlater h

/-- Where there is room for each character, no line of a paragraph is wider than it may be. -/
theorem shownWidth_le_of_mem_wrap (hcolumns : 3 ≤ columns) (h : line ∈ wrap columns text) :
  shownWidth line ≤ columns
  := by
  have hwords : ∀ word ∈ words columns text, shownWidth word.letters ≤ columns :=
    fun word hword => shownWidth_letters_le_of_mem_words hcolumns hword
  rw [wrap] at h
  cases hcons : words columns text with
  | nil =>
    rw [hcons] at h
    cases h
  | cons word rest =>
    rw [hcons] at h hwords
    obtain ⟨hword, hrest⟩ := List.forall_mem_cons.mp hwords
    apply shownWidth_le_of_mem_wrapAfter hword hrest h

end DeskCalculator.Text
