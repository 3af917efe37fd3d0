import DeskCalculator.Text.Width.EmojiSequence
import DeskCalculator.Text.Width.Ligature

/-!
# Display width

The number of terminal columns that a text takes.  It is the sum of the widths of its
characters but where characters are shown together: in emoji sequences, in ligatures, and
before a selector that changes the style of a character.  A text is measured from its end,
since what follows a character decides whether the character is the start of something.
-/

namespace DeskCalculator.Text

/-- A character that chooses the style of the character before it. -/
inductive Selector where
  | text
  | emoji
  /-- It makes a quotation mark a wide one. -/
  | wide
deriving DecidableEq

/-- The sequence or ligature to which the start of a text belongs. -/
inductive Tail where
  | plain
  | emoji (tail : EmojiTail)
  | ligature (tail : LigatureTail)
deriving DecidableEq

namespace Tail

/-- The tail with which a text starts whose first character continues nothing. -/
def ofChar (c : Char) : Tail :=
  match EmojiTail.ofChar? c, LigatureTail.ofChar? c with
  | some tail, _ => emoji tail
  | none, some tail => ligature tail
  | none, none => plain

/-- The tail that an optional ligature is. -/
def ofLigature : Option LigatureTail → Tail
  | some tail => ligature tail
  | none => plain

/-- The columns that a character adds to a text that starts with a tail, and the tail with
which the text starts then; nothing if the character does not continue the tail. -/
def extend? (c : Char) : Tail → Option (Int × Tail)
  | plain => none
  | emoji tail => (tail.extend? c).map fun (columns, tail) => (columns, emoji tail)
  | ligature tail => (tail.extend? c).map fun (columns, tail) => (columns, ofLigature tail)

/-- What is left of a tail before a selector of the text style. -/
def beforeTextSelector : Tail → Tail
  | ligature tail => if tail.passesSelectors then ligature tail else plain
  | _ => plain

/-- What is left of a tail before a selector of the emoji style. -/
def beforeEmojiSelector : Tail → Tail
  | emoji tail => if tail.isJoined then emoji tail else plain
  | tail => tail.beforeTextSelector

end Tail

/-- The start of a text, as far as the width of the character before it depends on it. -/
structure Start where
  selector : Option Selector
  tail : Tail
deriving DecidableEq

namespace Start

/-- The start of a text of which nothing bears on the character before it. -/
def plain : Start :=
  ⟨none, .plain⟩

/-- The columns that a character adds to a text that starts with a tail, and the start of
the text with the character. -/
def extendTail (c : Char) (tail : Tail) : Int × Start :=
  if c = emojiSelector then
    (0, ⟨some .emoji, tail.beforeEmojiSelector⟩)
  else if c = textSelector then
    (0, ⟨some .text, tail.beforeTextSelector⟩)
  else
    match tail.extend? c with
    | some (columns, tail) => (columns, ⟨none, tail⟩)
    | none => (charWidth c, ⟨if c = '\ufe01' then some .wide else none, .ofChar c⟩)

/-- The columns that a character adds to a text, and the start of the text with it. -/
def extend (c : Char) (start : Start) : Int × Start :=
  match start.selector, start.tail with
  | none, tail => extendTail c tail
  | some .emoji, .emoji _ =>
    if isStyled c then (0, ⟨none, .emoji .whole⟩) else extendTail c .plain
  | some .emoji, tail =>
    if isStyled c then (2, ⟨none, .emoji .whole⟩) else extendTail c tail
  | some .text, tail =>
    if narrowsAsText c then (1, plain) else extendTail c tail
  | some .wide, tail =>
    if c ∈ ['‘', '’', '“', '”'] then (2, plain) else extendTail c tail

end Start

/-- The columns of a text, and its start. -/
def measure (text : List Char) : Int × Start :=
  text.foldr
    (fun c (columns, start) =>
      let (more, start) := start.extend c
      (more + columns, start))
    (0, .plain)

/-- The number of columns of a text. -/
def width (text : List Char) : Nat :=
  (measure text).1.toNat

/-- A text followed by spaces that fill it up to a number of columns. -/
def padTo (columns : Nat) (text : List Char) : List Char :=
  text ++ List.replicate (columns - width text) ' '

end DeskCalculator.Text
