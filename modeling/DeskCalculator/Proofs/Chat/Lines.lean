import DeskCalculator.CommandLine.Chat
import DeskCalculator.Proofs.Text.Bytes
import DeskCalculator.Proofs.Text.Lines

/-!
# Lines of the input

A conversation cuts its input at the bytes of line feeds before it decodes anything.  If the input
encodes a text, this cuts the text at its line feeds (`inputLines_bytes`), so that each line
can be decoded, and the messages in the lines are the trimmed lines of the text
(`map_messageOf_inputTexts`).  What follows a line feed changes no line before it
(`inputLines_append`).
-/

namespace DeskCalculator.CommandLine

/-! ### Lines of bytes -/

/-- Lines with something before the first of them, which is a line on its own if there is none. -/
def startWith {α : Type} (start : List α) : List (List α) → List (List α)
  | [] => [start]
  | line :: later => (start ++ line) :: later

theorem startWith_ne_nil {α : Type} (start : List α) (lines : List (List α)) :
  startWith start lines ≠ []
  := by
  cases lines <;> exact List.cons_ne_nil _ _

theorem startWith_append {α : Type} (before after : List α) (lines : List (List α)) :
  startWith (before ++ after) lines = startWith before (startWith after lines)
  := by
  cases lines with
  | nil => rfl
  | cons line later =>
    rw [startWith, List.append_assoc]
    rfl

variable {byte : UInt8} {before after rest : List UInt8}

/-- The byte of a line feed ends a line. -/
theorem inputLines_lineFeed_cons (rest : List UInt8) :
  inputLines (10 :: rest) = [10] :: inputLines rest
  := by
  rw [inputLines, if_pos rfl]

/-- Another byte belongs to the line that goes on behind it. -/
theorem inputLines_cons_of_ne (h : byte ≠ 10) (rest : List UInt8) :
  inputLines (byte :: rest) = startWith [byte] (inputLines rest)
  := by
  rw [inputLines, if_neg h]
  cases inputLines rest <;> rfl

/-- Bytes without a line feed belong to the line that goes on behind them. -/
theorem inputLines_append_of_not_mem (hne : before ≠ []) (h : 10 ∉ before) (after : List UInt8) :
  inputLines (before ++ after) = startWith before (inputLines after)
  := by
  induction before with
  | nil => exact absurd rfl hne
  | cons byte rest ih =>
    rw [List.mem_cons, not_or] at h
    obtain ⟨hbyte, hrest⟩ := h
    rw [List.cons_append, inputLines_cons_of_ne (Ne.symm hbyte)]
    by_cases hnil : rest = []
    · subst hnil
      rfl
    · rw [ih hnil hrest, ← startWith_append]
      rfl

theorem inputLines_ne_nil (h : rest ≠ []) :
  inputLines rest ≠ []
  := by
  obtain ⟨byte, rest, rfl⟩ := List.exists_cons_of_ne_nil h
  by_cases hbyte : byte = 10
  · subst hbyte
    rw [inputLines_lineFeed_cons]
    apply List.cons_ne_nil
  · rw [inputLines_cons_of_ne hbyte]
    apply startWith_ne_nil

theorem eq_nil_of_inputLines_eq_nil (h : inputLines rest = []) :
  rest = []
  := by
  by_contra hne
  apply inputLines_ne_nil hne h

/-- Lines of an input are not empty. -/
theorem ne_nil_of_mem_inputLines {line : List UInt8} (h : line ∈ inputLines rest) :
  line ≠ []
  := by
  induction rest with
  | nil => cases h
  | cons byte rest ih =>
    by_cases hbyte : byte = 10
    · subst hbyte
      rw [inputLines_lineFeed_cons, List.mem_cons] at h
      obtain rfl | h := h
      · apply List.cons_ne_nil
      · apply ih h
    · rw [inputLines_cons_of_ne hbyte] at h
      generalize inputLines rest = lines at h ih
      cases lines with
      | nil =>
        obtain rfl := List.mem_singleton.mp h
        apply List.cons_ne_nil
      | cons first later =>
        obtain rfl | h := List.mem_cons.mp h
        · apply List.cons_ne_nil
        · apply ih (List.mem_cons_of_mem first h)

/-- Lines behind a line feed, or behind nothing, are lines on their own. -/
theorem inputLines_append (h : ∀ byte ∈ before.getLast?, byte = 10) (after : List UInt8) :
  inputLines (before ++ after) = inputLines before ++ inputLines after
  := by
  induction before with
  | nil => rfl
  | cons byte rest ih =>
    have hrest : ∀ last ∈ rest.getLast?, last = 10 := by
      intro last hlast
      apply h
      rw [List.getLast?_cons, hlast]
      rfl
    by_cases hbyte : byte = 10
    · subst hbyte
      rw [List.cons_append, inputLines_lineFeed_cons, inputLines_lineFeed_cons, ih hrest,
        List.cons_append]
    · have hne : inputLines rest ≠ [] := by
        apply inputLines_ne_nil
        rintro rfl
        exact hbyte (h byte rfl)
      rw [List.cons_append, inputLines_cons_of_ne hbyte, inputLines_cons_of_ne hbyte, ih hrest]
      obtain ⟨line, later, hlines⟩ := List.exists_cons_of_ne_nil hne
      rw [hlines]
      rfl

/-! ### Lines of a text -/

/-- The lines of a text with their line feeds. -/
def feedLines : List Char → List (List Char)
  | [] => []
  | c :: rest =>
    if c = '\n' then
      [c] :: feedLines rest
    else
      startWith [c] (feedLines rest)

/-- The lines of a text with their line feeds, as texts. -/
def inputTexts (text : String) : List String :=
  (feedLines text.toList).map String.ofList

theorem map_bytes_startWith (c : Char) (lines : List (List Char)) :
  (startWith [c] lines).map (fun line => Text.bytes (String.ofList line))
    = startWith (String.utf8EncodeChar c)
      (lines.map fun line => Text.bytes (String.ofList line))
  := by
  cases lines with
  | nil => simp [startWith, Text.bytes_ofList]
  | cons line later => simp [startWith, Text.bytes_ofList]

theorem inputLines_bytes_ofList (chars : List Char) :
  inputLines (Text.bytes (String.ofList chars))
    = (feedLines chars).map fun line => Text.bytes (String.ofList line)
  := by
  induction chars with
  | nil => rfl
  | cons c rest ih =>
    rw [Text.bytes_ofList, List.flatMap_cons, ← Text.bytes_ofList, feedLines]
    split
    · next hc =>
      subst hc
      have hbytes : String.utf8EncodeChar '\n' = [10] := by decide
      rw [hbytes, List.singleton_append, inputLines_lineFeed_cons, ih, List.map_cons,
        Text.bytes_ofList, List.flatMap_singleton, hbytes]
    · next hc =>
      have hbyte : 10 ∉ String.utf8EncodeChar c := fun h =>
        hc (Text.eq_lineFeed_of_mem_utf8EncodeChar h)
      rw [inputLines_append_of_not_mem String.utf8EncodeChar_ne_nil hbyte, ih,
        map_bytes_startWith]

/-- The lines of input that encodes a text encode the lines of the text. -/
theorem inputLines_bytes (text : String) :
  inputLines (Text.bytes text) = (inputTexts text).map Text.bytes
  := by
  have hlines := inputLines_bytes_ofList text.toList
  rw [String.ofList_toList] at hlines
  rw [hlines, inputTexts, List.map_map]
  rfl

/-- The lines of a text with their line feeds are its lines. -/
theorem forall₂_withEnd_feedLines (chars : List Char) :
  List.Forall₂ (Text.WithEnd '\n') (Text.lines chars) (feedLines chars)
  := by
  induction chars with
  | nil => exact .nil
  | cons c rest ih =>
    rw [Text.lines, feedLines]
    split
    · next hc =>
      subst hc
      exact .cons (Or.inr rfl) ih
    · generalize Text.lines rest = shown at ih ⊢
      generalize feedLines rest = lines at ih ⊢
      cases ih with
      | nil => exact .cons (Or.inl rfl) .nil
      | cons hline hlater => exact .cons (hline.cons c) hlater

/-! ### Messages -/

/-- The lines of a text, which end with a line feed or with a carriage return and a line feed,
without the white space around them. -/
def trimmedLines (text : String) : List String :=
  ((Text.shownLines text.toList).map Text.trim).map String.ofList

/-- The messages in the lines of a text are its trimmed lines. -/
theorem map_messageOf_inputTexts (text : String) :
  (inputTexts text).map messageOf = trimmedLines text
  := by
  have htrim := Text.map_trim_of_forall₂ rfl (forall₂_withEnd_feedLines text.toList)
  rw [trimmedLines, ← Text.map_trim_lines, ← htrim, inputTexts, List.map_map, List.map_map]
  apply List.map_congr_left
  intro line _
  rw [Function.comp, messageOf, String.toList_ofList]
  rfl

end DeskCalculator.CommandLine
