import DeskCalculator.Text.Alphanumeric.Table
import DeskCalculator.Text.LineBreak
import DeskCalculator.Text.Width.Character

/-!
# Paragraphs

A text without line ends is broken into lines of a limited width.  A line takes as many
words as fit, a word being what no line break may part; a compound may also be parted after
its hyphens, and a word that is too long for a line is cut where the line is full.
-/

namespace DeskCalculator.Text

/-- Whether a text ends with a hyphen; there only the rule for compounds allows a break. -/
def endsHyphenated (text : List Char) : Bool :=
  [some '-', some '\u00ad'].contains text.getLast?

/-- The parts of a text, each one that ends with a hyphen joined to the next. -/
def joinHyphenated : List (List Char) → List (List Char)
  | [] => []
  | part :: rest =>
    match joinHyphenated rest with
    | [] => [part]
    | next :: later =>
      if endsHyphenated part then
        (part ++ next) :: later
      else
        part :: next :: later

/-- Joining parts keeps the text that they make up. -/
theorem flatten_joinHyphenated (parts : List (List Char)) :
  (joinHyphenated parts).flatten = parts.flatten
  := by
  fun_induction joinHyphenated parts with
  | case1 => rfl
  | case2 part rest h ih =>
    rw [h] at ih
    rw [List.flatten_cons, List.flatten_cons, ← ih]
  | case3 part rest next later h hp ih => simp_all
  | case4 part rest next later h hp ih => simp_all

/-- Whether a character is a letter or a number. -/
def isAlphanumeric (c : Char) : Bool :=
  alphanumericCodes.contains c

/-- The pieces of a text that stands after the character `last`, parted after each hyphen
between two letters or numbers. -/
def hyphenPieces (last : Char) : List Char → List (List Char)
  | [] => []
  | [c] => [[c]]
  | c :: next :: rest =>
    match hyphenPieces c (next :: rest) with
    | [] => [[c]]
    | piece :: later =>
      if c = '-' && isAlphanumeric last && isAlphanumeric next then
        [c] :: piece :: later
      else
        (c :: piece) :: later

/-- The pieces of a text make up the text. -/
theorem flatten_hyphenPieces (last : Char) (text : List Char) :
  (hyphenPieces last text).flatten = text
  := by
  fun_induction hyphenPieces last text with
  | case1 => rfl
  | case2 => rfl
  | case3 last c next rest h ih => simp_all
  | case4 last c next rest piece later h hc ih => simp_all
  | case5 last c next rest piece later h hc ih => simp_all

/-- A piece that holds the characters `piece`, and the pieces after it; a piece ends before
the character that would exceed the number of columns. -/
def fullPieces (columns : Nat) (piece : List Char) : List Char → List (List Char)
  | [] => [piece]
  | c :: rest =>
    if 0 < shownWidth piece && columns < shownWidth (piece ++ [c]) then
      piece :: fullPieces columns [c] rest
    else
      fullPieces columns (piece ++ [c]) rest

/-- The pieces make up the text, with the characters that the first of them holds. -/
theorem flatten_fullPieces (columns : Nat) (piece text : List Char) :
  (fullPieces columns piece text).flatten = piece ++ text
  := by
  induction text generalizing piece with
  | nil => simp [fullPieces]
  | cons c rest ih =>
    rw [fullPieces]
    split
    · simp [ih]
    · simp [ih]

/-- A word and the spaces after it. -/
structure Word where
  letters : List Char
  spaces : Nat

namespace Word

/-- The word that a part of a text is. -/
def ofPart (part : List Char) : Word where
  letters := (part.reverse.dropWhile (· = ' ')).reverse
  spaces := (part.reverse.takeWhile (· = ' ')).length

/-- A word cut into pieces, of which the last one keeps the spaces. -/
def pieces (cut : List Char → List (List Char)) (word : Word) : List Word :=
  let pieces := cut word.letters
  pieces.dropLast.map (⟨·, 0⟩) ++ [⟨pieces.getLastD [], word.spaces⟩]

end Word

/-- The words of a text, of which none exceeds a number of columns. -/
def words (columns : Nat) (text : List Char) : List Word :=
  let whole := (joinHyphenated (unbreakableParts text)).map Word.ofPart
  (whole.flatMap (Word.pieces (hyphenPieces ' '))).flatMap (Word.pieces (fullPieces columns []))

/-- The lines after a line that holds the characters `line` and `spaces` spaces, broken
before every word that would exceed the number of columns. -/
def wrapAfter (columns : Nat) (line : List Char) (spaces : Nat) : List Word → List (List Char)
  | [] => [line]
  | word :: rest =>
    let joined := line ++ List.replicate spaces ' ' ++ word.letters
    if shownWidth joined ≤ columns then
      wrapAfter columns joined word.spaces rest
    else
      line :: wrapAfter columns word.letters word.spaces rest

/-- A text broken into lines of at most the given number of columns.  The spaces at a break
are left out. -/
def wrap (columns : Nat) (text : List Char) : List (List Char) :=
  match words columns text with
  | [] => []
  | word :: rest => wrapAfter columns word.letters word.spaces rest

end DeskCalculator.Text
