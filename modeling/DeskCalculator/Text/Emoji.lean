import DeskCalculator.Text.Emoji.Table

/-!
# Emoji characters

The kinds of characters of which emoji sequences are made: emoji that need no selector, skin
tones and the emoji that take one, the regional indicators of which two make a flag, the
tags that follow a black flag, the joiner and the keycap.
-/

namespace DeskCalculator.Text

/-- The character that makes one emoji of the two beside it. -/
def joiner : Char :=
  '\u200d'

/-- The mark that puts a keycap around the character before it. -/
def keycap : Char :=
  '\u20e3'

/-- The character that asks for the text style of the character before it. -/
def textSelector : Char :=
  '\ufe0e'

/-- The character that asks for the emoji style of the character before it. -/
def emojiSelector : Char :=
  '\ufe0f'

/-- Whether a character has a text style and an emoji style. -/
def isStyled (c : Char) : Bool :=
  styledCodes.contains c

/-- Whether a character is an emoji that a selector can turn into a sign of one column; the
squared ideographs stay wide. -/
def narrowsAsText (c : Char) : Bool :=
  isStyled c && emojiPresentationCodes.contains c && !isFrom 0x1f200 0x1f2ff c

/-- Whether a character is a regional indicator. -/
def isRegional (c : Char) : Bool :=
  isFrom 0x1f1e6 0x1f1ff c

/-- Whether a character is a skin tone. -/
def isSkinTone (c : Char) : Bool :=
  isFrom 0x1f3fb 0x1f3ff c

/-- Whether a character is an emoji that takes a skin tone. -/
def takesSkinTone (c : Char) : Bool :=
  modifierBaseCodes.contains c

/-- Whether a character is an emoji of its own without a selector. -/
def isEmoji (c : Char) : Bool :=
  emojiPresentationCodes.contains c && !isRegional c && !isSkinTone c

/-- Whether a character is a tag that stands for a letter. -/
def isTagLetter (c : Char) : Bool :=
  isFrom 0xe0061 0xe007a c

/-- Whether a character is a tag that stands for a digit. -/
def isTagDigit (c : Char) : Bool :=
  isFrom 0xe0030 0xe0039 c

/-- Whether a character is the tag that ends a sequence of tags. -/
def isFinalTag (c : Char) : Bool :=
  c.toNat = 0xe007f

end DeskCalculator.Text
