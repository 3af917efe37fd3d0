/-!
# Lines

A text is cut into lines at its line feeds.  In a wider sense a carriage return, alone or
before a line feed, also ends a line.
-/

namespace DeskCalculator.Text

/-- The lines of a text; a line feed at the end starts no further line. -/
def lines : List Char → List (List Char)
  | [] => []
  | c :: rest =>
    if c = '\n' then
      [] :: lines rest
    else
      match lines rest with
      | [] => [[c]]
      | line :: later => (c :: line) :: later

/-- The lines of a text as they are shown: a carriage return before a line feed is left out,
and alone it does not end a line. -/
def shownLines : List Char → List (List Char)
  | [] => []
  | '\r' :: '\n' :: rest => [] :: shownLines rest
  | c :: rest =>
    if c = '\n' then
      [] :: shownLines rest
    else
      match shownLines rest with
      | [] => [[c]]
      | line :: later => (c :: line) :: later

/-- The lines of a text with their ends, a line feed, a carriage return or both. -/
def fullLines : List Char → List (List Char)
  | [] => []
  | '\r' :: '\n' :: rest => ['\r', '\n'] :: fullLines rest
  | c :: rest =>
    if c = '\n' ∨ c = '\r' then
      [c] :: fullLines rest
    else
      match fullLines rest with
      | [] => [[c]]
      | line :: later => (c :: line) :: later

/-- Whether a line has an end. -/
def isEnded (line : List Char) : Bool :=
  line.getLast? ∈ [some '\n', some '\r']

/-- The lines of a text with their ends make up the text. -/
theorem flatten_fullLines (text : List Char) :
  (fullLines text).flatten = text
  := by
  fun_induction fullLines text with
  | case1 => rfl
  | case2 rest ih => simp [ih]
  | case3 c rest _ _ ih => simp [ih]
  | case4 c rest _ _ h ih => simp_all
  | case5 c rest _ _ line later h ih => simp_all

end DeskCalculator.Text
