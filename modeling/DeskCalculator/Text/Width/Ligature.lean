import DeskCalculator.Text.Emoji
import DeskCalculator.Text.Width.Character
import DeskCalculator.Text.Width.Ligature.Table

/-!
# Widths of ligatures

In some scripts two letters are written as one.  A text is measured from its end, and a
`LigatureTail` is the letter that has been met and that may be joined to the letter before
it, with the joiner between the two if the script needs one.
-/

namespace DeskCalculator.Text

/-- The letter with which a text starts and which may be joined to the one before it. -/
inductive LigatureTail where
  /-- An Arabic alef, which is joined to a lam. -/
  | alef
  /-- A Hebrew lamed, which a joiner joins to an alef. -/
  | lamed (joined : Bool)
  /-- A Buginese ya, which a joiner joins to the vowels of iya. -/
  | ya (joined : Bool)
  /-- A Buginese vowel i and a ya. -/
  | iya
  /-- A Tifinagh letter, which a joiner joins to another one. -/
  | tifinagh (joined : Bool)
  /-- A Tifinagh letter after the joiner of its script. -/
  | joinedTifinagh
  /-- A Lisu tone that completes another one. -/
  | lisuTone
  /-- An Old Turkic letter, which a joiner joins to another one. -/
  | orkhon (joined : Bool)
  /-- A Khmer letter that a coeng puts below the one before it. -/
  | khmer
  /-- A Kirat Rai vowel e. -/
  | vowelE
  /-- A Kirat Rai vowel ai. -/
  | vowelAi
deriving DecidableEq

namespace LigatureTail

/-- A tail after a joiner. -/
def afterJoiner : LigatureTail → LigatureTail
  | lamed _ => lamed true
  | ya _ => ya true
  | tifinagh _ => tifinagh true
  | orkhon _ => orkhon true
  | tail => tail

/-- Whether a selector and a joiner may come before a tail without parting it from the letter
before them. -/
def passesSelectors : LigatureTail → Bool
  | vowelE | vowelAi => false
  | _ => true

/-- Whether a character without a column leaves the letters at its two sides joined. -/
def isTransparent (c : Char) : Bool :=
  zeroWidthCodes.contains c && !separatingCodes.contains c

/-- The columns that a letter adds to a text that starts with a tail to which it is joined,
and the tail with which the text starts then, if any. -/
def join? (c : Char) : LigatureTail → Option (Int × Option LigatureTail)
  | alef =>
    if lamCodes.contains c then some (0, none)
    else if isTransparent c then some (0, some alef)
    else none
  | lamed joined => if joined && c = 'א' then some (0, none) else none
  | ya joined => if joined && c = '\u1a17' then some (0, some iya) else none
  | iya => if c = 'ᨕ' then some (0, none) else none
  | tifinagh joined =>
    if c = '\u2d7f' then some (1, some joinedTifinagh)
    else if joined && tifinaghCodes.contains c then some (0, none)
    else none
  | joinedTifinagh => if tifinaghCodes.contains c then some (-1, none) else none
  | lisuTone => if isFrom 0xa4f8 0xa4fb c then some (0, none) else none
  | orkhon joined => if joined && c = '𐰲' then some (0, none) else none
  | khmer => if c = '\u17d2' then some (-1, none) else none
  | vowelE =>
    if isFrom 0x16d63 0x16d63 c || isFrom 0x16d69 0x16d69 c then some (0, none)
    else if isFrom 0x16d67 0x16d67 c then some (0, some vowelE)
    else if isFrom 0x16d68 0x16d68 c then some (1, some vowelE)
    else none
  | vowelAi => if isFrom 0x16d63 0x16d63 c then some (0, none) else none

/-- The columns that a character adds to a text that starts with a tail, and the tail with
which the text starts then, if any; nothing if the character is not joined to the tail. -/
def extend? (c : Char) (tail : LigatureTail) : Option (Int × Option LigatureTail) :=
  if tail = alef || !tail.passesSelectors then
    tail.join? c
  else if c = joiner then
    some (0, some tail.afterJoiner)
  else if ignorableMarkCodes.contains c then
    some (0, some tail)
  else
    tail.join? c

/-- The tail with which a text starts whose first character is not joined to the next. -/
def ofChar? (c : Char) : Option LigatureTail :=
  if alefCodes.contains c then some alef
  else if c = 'ל' then some (lamed false)
  else if c = 'ᨐ' then some (ya false)
  else if tifinaghCodes.contains c then some (tifinagh false)
  else if isFrom 0xa4fc 0xa4fd c then some lisuTone
  else if c = '𐰃' then some (orkhon false)
  else if coengCodes.contains c then some khmer
  else if isFrom 0x16d67 0x16d67 c then some vowelE
  else if isFrom 0x16d68 0x16d68 c then some vowelAi
  else none

end LigatureTail

end DeskCalculator.Text
