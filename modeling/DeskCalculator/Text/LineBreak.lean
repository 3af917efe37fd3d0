import DeskCalculator.Text.LineBreak.Table

/-!
# Line breaking

The places at which a line may be broken, by the line breaking algorithm of Unicode.  A mark
belongs to the character before it; whether a line may be broken between two characters
depends on their classes, on what stands before a run of spaces, and in a few cases on the
characters before.  The text holds no line ends.
-/

namespace DeskCalculator.Text

/-- The line breaking classes. -/
inductive BreakClass where
  | alphabetic
  | combining
  | joiner
  | space
  | zeroWidthSpace
  | wordJoiner
  | glue
  | breakAfter
  | breakBefore
  | breakBoth
  | hyphen
  | contingent
  | exclamation
  | separator
  | slash
  | quotation
  | opening
  | closing
  | closingParenthesis
  | nonstarter
  | leader
  | digit
  | beforeNumber
  | afterNumber
  | hebrew
  | ideograph
  | emojiBase
  | emojiModifier
  | regional
  | leadingJamo
  | vowelJamo
  | trailingJamo
  /-- A Hangul syllable without a trailing part. -/
  | openSyllable
  /-- A Hangul syllable with a trailing part. -/
  | closedSyllable
deriving DecidableEq

namespace BreakClass

/-- The classes with more than one character and their characters, the alphabetic class and
the Hangul syllables left out. -/
def table : List (BreakClass × CodeSet) :=
  [(combining, combiningCodes), (breakAfter, breakAfterCodes),
    (breakBefore, breakBeforeCodes), (breakBoth, breakBothCodes),
    (exclamation, exclamationCodes), (quotation, quotationCodes),
    (beforeNumber, beforeNumberCodes), (afterNumber, afterNumberCodes),
    (separator, separatorCodes), (digit, digitCodes), (opening, openingCodes),
    (closing, closingCodes), (closingParenthesis, closingParenthesisCodes),
    (nonstarter, nonstarterCodes), (ideograph, ideographCodes), (emojiBase, emojiBaseCodes),
    (emojiModifier, emojiModifierCodes), (glue, glueCodes), (hebrew, hebrewCodes),
    (leader, leaderCodes), (regional, regionalCodes), (leadingJamo, leadingJamoCodes),
    (vowelJamo, vowelJamoCodes), (trailingJamo, trailingJamoCodes),
    (wordJoiner, wordJoinerCodes)]

/-- The class of a character. -/
def ofChar (c : Char) : BreakClass :=
  if c = ' ' then space
  else if c = '-' then hyphen
  else if c = '/' then slash
  else if c = '\u200b' then zeroWidthSpace
  else if c = '\u200d' then joiner
  else if c = '\ufffc' then contingent
  else if isFrom 0xac00 0xd7a3 c then
    if (c.toNat - 0xac00) % 28 = 0 then openSyllable else closedSyllable
  else
    match table.find? fun (_, codes) => codes.contains c with
    | some (kind, _) => kind
    | none => alphabetic

/-- Whether the characters of a class belong to the character before them. -/
def isMark (kind : BreakClass) : Bool :=
  kind ∈ [combining, joiner]

/-- Whether a mark may belong to a character of a class. -/
def takesMarks (kind : BreakClass) : Bool :=
  kind ∉ [space, zeroWidthSpace]

/-- Whether the characters of a class are letters of an alphabet. -/
def isLetter (kind : BreakClass) : Bool :=
  kind ∈ [alphabetic, hebrew]

/-- Whether the characters of a class are drawn as pictures. -/
def isPicture (kind : BreakClass) : Bool :=
  kind ∈ [ideograph, emojiBase, emojiModifier]

/-- Whether the characters of a class are Hangul. -/
def isHangul (kind : BreakClass) : Bool :=
  kind ∈ [leadingJamo, vowelJamo, trailingJamo, openSyllable, closedSyllable]

/-- Whether a sign and a number, or two parts of a number, stay together. -/
def staysInNumber : BreakClass → BreakClass → Bool
  | closing, next | closingParenthesis, next => next ∈ [beforeNumber, afterNumber]
  | digit, next => next ∈ [beforeNumber, afterNumber, digit]
  | beforeNumber, next | afterNumber, next => next ∈ [opening, digit]
  | hyphen, next | separator, next | slash, next => next = digit
  | _, _ => false

/-- Whether two parts of a Hangul syllable stay together. -/
def staysInSyllable : BreakClass → BreakClass → Bool
  | leadingJamo, next => next ∈ [leadingJamo, vowelJamo, openSyllable, closedSyllable]
  | vowelJamo, next | openSyllable, next => next ∈ [vowelJamo, trailingJamo]
  | trailingJamo, next | closedSyllable, next => next = trailingJamo
  | _, _ => false

/-- Whether two letters, numbers, signs or pictures stay together. -/
def staysInWord (last next : BreakClass) : Bool :=
  (last.isLetter && (next.isLetter || next ∈ [digit, beforeNumber, afterNumber])) ||
    (next.isLetter && last ∈ [digit, beforeNumber, afterNumber, separator]) ||
    (last = slash && next = hebrew) ||
    (last = beforeNumber && (next.isPicture || next.isHangul)) ||
    (next = afterNumber && (last.isPicture || last.isHangul)) ||
    (last = emojiBase && next = emojiModifier) ||
    staysInNumber last next || staysInSyllable last next

end BreakClass

/-- A character and the marks that belong to it. -/
structure Cluster where
  first : Char
  marks : List Char

namespace Cluster

/-- The characters of a cluster. -/
def text (cluster : Cluster) : List Char :=
  cluster.first :: cluster.marks

/-- The class of a cluster; a mark without a character before it counts as a letter. -/
def kind (cluster : Cluster) : BreakClass :=
  let kind := BreakClass.ofChar cluster.first
  if kind.isMark then .alphabetic else kind

/-- The clusters of a text, which a mark never starts where it may belong to a character. -/
def ofText : List Char → List Cluster
  | [] => []
  | c :: rest =>
    match ofText rest with
    | [] => [⟨c, []⟩]
    | next :: later =>
      if (BreakClass.ofChar next.first).isMark && (BreakClass.ofChar c).takesMarks then
        ⟨c, next.text⟩ :: later
      else
        ⟨c, []⟩ :: next :: later

/-- Whether a cluster ends with a joiner. -/
def endsJoined (cluster : Cluster) : Bool :=
  BreakClass.ofChar (cluster.text.getLastD ' ') = .joiner

/-- Whether a cluster starts with a bracket of East Asian width. -/
def isWideBracket (cluster : Cluster) : Bool :=
  wideBracketCodes.contains cluster.first

/-- Whether no line is broken between a cluster and the next even after spaces, `base` being
the class of the last cluster that is no space. -/
def staysDespiteSpaces (base : Option BreakClass) (last next : Cluster) : Bool :=
  last.kind ∈ [.wordJoiner, .glue] ||
    next.kind ∈ [.wordJoiner, .closing, .closingParenthesis, .exclamation, .separator, .slash] ||
    (next.kind = .glue && last.kind ∉ [.space, .breakAfter, .hyphen]) ||
    base = some .opening ||
    (base = some .quotation && next.kind = .opening) ||
    (base ∈ [some .closing, some .closingParenthesis] && next.kind = .nonstarter) ||
    (base = some .breakBoth && next.kind = .breakBoth)

/-- Whether no line is broken between a cluster and the next, which no space parts;
`earlier` are the clusters before them, the nearest first. -/
def staysWith (earlier : List Cluster) (last next : Cluster) : Bool :=
  next.kind ∈ [.breakAfter, .hyphen, .nonstarter, .leader] ||
    last.kind = .breakBefore ||
    (last.kind ∈ [.hyphen, .breakAfter] && (earlier.head?.map kind) = some .hebrew) ||
    last.kind.staysInWord next.kind ||
    (next.kind = .opening && (last.kind.isLetter || last.kind = .digit) &&
      !next.isWideBracket) ||
    (last.kind = .closingParenthesis && (next.kind.isLetter || next.kind = .digit) &&
      !last.isWideBracket) ||
    (last.kind = .regional && next.kind = .regional &&
      (earlier.takeWhile (·.kind = .regional)).length % 2 = 0) ||
    (next.kind = .emojiModifier && reservedPictographCodes.contains last.first)

/-- Whether a line may be broken between a cluster and the next; `earlier` are the clusters
before them, the nearest first. -/
def mayBreak (earlier : List Cluster) (last next : Cluster) : Bool :=
  let base := ((last :: earlier).find? (·.kind ≠ .space)).map kind
  if next.kind ∈ [.space, .zeroWidthSpace] then false
  else if base = some .zeroWidthSpace then true
  else if last.endsJoined || staysDespiteSpaces base last next then false
  else if last.kind = .space then true
  else if last.kind = .quotation || next.kind = .quotation then false
  else if last.kind = .contingent || next.kind = .contingent then true
  else !staysWith earlier last next

end Cluster

/-- The parts of a text between the places where a line may be broken; `earlier` are the
clusters before the text, the nearest first. -/
def partsAfter (earlier : List Cluster) : List Cluster → List (List Char)
  | [] => []
  | [last] => [last.text]
  | last :: next :: rest =>
    match partsAfter (last :: earlier) (next :: rest) with
    | [] => [last.text]
    | part :: later =>
      if Cluster.mayBreak earlier last next then
        last.text :: part :: later
      else
        (last.text ++ part) :: later

/-- The parts of a text between the places where a line may be broken. -/
def unbreakableParts (text : List Char) : List (List Char) :=
  partsAfter [] (Cluster.ofText text)

/-- The clusters of a text make up the text. -/
theorem Cluster.flatMap_text_ofText (text : List Char) :
  (ofText text).flatMap Cluster.text = text
  := by
  induction text with
  | nil => rfl
  | cons c rest ih =>
    rw [ofText]
    split
    · rename_i h
      simp_all [Cluster.text]
    · rename_i next later h
      rw [h, List.flatMap_cons] at ih
      split
      · simp [Cluster.text, ← ih]
      · simp [Cluster.text, ← ih]

/-- The parts of a text make up the text. -/
theorem flatten_partsAfter (earlier clusters : List Cluster) :
  (partsAfter earlier clusters).flatten = clusters.flatMap Cluster.text
  := by
  fun_induction partsAfter earlier clusters with
  | case1 => rfl
  | case2 => simp
  | case3 earlier last next rest h ih => simp_all
  | case4 earlier last next rest part later h hb ih => simp_all
  | case5 earlier last next rest part later h hb ih => simp_all

/-- Breaking loses no character. -/
theorem flatten_unbreakableParts (text : List Char) :
  (unbreakableParts text).flatten = text
  := by
  rw [unbreakableParts, flatten_partsAfter, Cluster.flatMap_text_ofText]

end DeskCalculator.Text
