import DeskCalculator.Text.Emoji

/-!
# Widths of emoji sequences

An emoji sequence takes the two columns of one emoji.  A text is measured from its end, and
the first emoji that is met takes the two columns; the characters before it that continue
the sequence add nothing.  An `EmojiTail` is what has been met of a sequence.
-/

namespace DeskCalculator.Text

/-- The end of an emoji sequence with which a text starts. -/
inductive EmojiTail where
  /-- A whole emoji. -/
  | whole
  | skinTone
  | regional
  | regionals
  /-- A joiner and an emoji after it. -/
  | joined
  /-- A keycap, a joiner and an emoji. -/
  | joinedKeycap
  /-- A regional indicator before a joiner and an emoji. -/
  | joinedRegional
  /-- An even number of regional indicators before a joiner and an emoji. -/
  | joinedFlags
  /-- An odd number of regional indicators, not one, before a joiner and an emoji. -/
  | joinedOddRegionals
  /-- Tags before a joiner and an emoji, that many letters the first of them. -/
  | joinedLetters (count : Nat)
  /-- Tags before a joiner and an emoji, that many digits the first of them. -/
  | joinedDigits (count : Nat)
deriving DecidableEq

namespace EmojiTail

/-- Whether a selector before a tail belongs to an emoji that the tail continues. -/
def isJoined : EmojiTail → Bool
  | joined | joinedKeycap => true
  | _ => false

/-- The columns that a character adds to a text that starts with a tail, and the tail with
which the text starts then; nothing if the character does not continue the sequence. -/
def extend? (c : Char) : EmojiTail → Option (Int × EmojiTail)
  | whole => if c = joiner then some (0, joined) else none
  | skinTone =>
    if takesSkinTone c then some (0, whole)
    else if c = joiner then some (0, joined)
    else none
  | regional => if isRegional c then some (1, regionals) else none
  | regionals =>
    if isRegional c then some (1, regionals)
    else if c = joiner then some (0, joined)
    else none
  | joined =>
    if c = keycap then some (0, joinedKeycap)
    else if isRegional c then some (1, joinedRegional)
    else if isSkinTone c then some (0, skinTone)
    else if isFinalTag c then some (0, joinedLetters 0)
    else if isEmoji c then some (0, whole)
    else none
  | joinedKeycap => none
  | joinedRegional => if isRegional c then some (-1, joinedFlags) else none
  | joinedFlags =>
    if isRegional c then some (3, joinedOddRegionals)
    else if c = joiner then some (0, joined)
    else none
  | joinedOddRegionals =>
    if isRegional c then some (-1, joinedFlags)
    else if c = joiner then some (0, joined)
    else none
  | joinedLetters count =>
    if isTagLetter c && count < 6 then some (0, joinedLetters (count + 1))
    else if isTagDigit c && count ≤ 4 then some (0, joinedDigits 1)
    else if c = '🏴' && 3 ≤ count then some (0, whole)
    else none
  | joinedDigits count =>
    if isTagDigit c && count < 3 then some (0, joinedDigits (count + 1))
    else if isTagLetter c && count = 3 then some (0, joinedLetters 3)
    else if c = '🏴' && count = 3 then some (0, whole)
    else none

/-- The tail with which a text starts whose first character continues no sequence. -/
def ofChar? (c : Char) : Option EmojiTail :=
  if isRegional c then some regional
  else if isSkinTone c then some skinTone
  else if isEmoji c then some whole
  else none

end EmojiTail

end DeskCalculator.Text
