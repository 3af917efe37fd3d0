import DeskCalculator.Text.Lowercase.Table

/-!
# Lower case

The full lower-case mapping of Unicode.  Every character but two is mapped on its own to
one character.  A capital I with a dot becomes an `i` and a combining dot.  A capital sigma
becomes the final sigma at the end of a word, and the medial one elsewhere; it ends a word
if a cased character comes before it and none after it, characters that do not matter for
case being passed over.
-/

namespace DeskCalculator.Text

/-- The lower-case letter that a run gives to a code point. -/
def CaseRun.lower? (run : CaseRun) (code : Nat) : Option Nat :=
  if run.first ≤ code ∧ code ≤ run.last ∧ (code - run.first) % run.step = 0 then
    some (code + run.shift).toNat
  else
    none

/-- The lower-case letter of a character that has a single one; other characters are kept. -/
def lowerChar (c : Char) : Char :=
  match caseRuns.findSome? fun run => run.lower? c.toNat with
  | some code => Char.ofNat code
  | none => c

/-- Whether a character is a cased letter. -/
def isCased (c : Char) : Bool :=
  casedCodes.contains c

/-- Whether a character does not matter for the case of its neighbours. -/
def isCaseIgnorable (c : Char) : Bool :=
  caseIgnorableCodes.contains c

/-- Whether the first character of a text that matters for case is cased. -/
def startsCased (text : List Char) : Bool :=
  match text.dropWhile isCaseIgnorable with
  | [] => false
  | c :: _ => isCased c

/-- The lower-case form of a character that stands after the characters `before`, the
nearest first, and before the characters `after`. -/
def lowerInContext (before : List Char) (c : Char) (after : List Char) : List Char :=
  if c = 'Σ' then
    [if startsCased before && !startsCased after then 'ς' else 'σ']
  else if c = 'İ' then
    ['i', '\u0307']
  else
    [lowerChar c]

/-- The lower-case form of a text that stands after the characters `before`, the nearest
first. -/
def lowercaseAfter (before : List Char) : List Char → List Char
  | [] => []
  | c :: after => lowerInContext before c after ++ lowercaseAfter (c :: before) after

/-- The lower-case form of a text. -/
def lowercase (text : List Char) : List Char :=
  lowercaseAfter [] text

end DeskCalculator.Text
