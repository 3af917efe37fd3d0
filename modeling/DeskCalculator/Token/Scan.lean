import DeskCalculator.Fault
import DeskCalculator.Text.Blank
import DeskCalculator.Token

/-!
# Reading tokens

A token starts a text if the text starts with a digit, an operator or a parenthesis.  A
number takes the longest run of digits and, if a point follows it, the point and the
longest run of digits after the point.

The lenient reading `scan` passes over every character that starts no token.  The strict
reading `scanStrict` passes over white space only, and refuses the first other character
that starts no token, naming its offset in bytes.
-/

namespace DeskCalculator.Token

/-- The token written with a single character, if there is one. -/
def ofSymbol? : Char → Option Token
  | '(' => some opening
  | ')' => some closing
  | c => (Operator.ofSymbol? c).map operator

/-- The number at the start of a text that begins with a digit, and the text after it. -/
def nextNumber (text : List Char) : Token × List Char :=
  let whole := text.takeWhile Char.isDigit
  match text.dropWhile Char.isDigit with
  | '.' :: rest =>
    (number (Decimal.ofDigits whole (rest.takeWhile Char.isDigit)).toFloat,
      rest.dropWhile Char.isDigit)
  | rest => (number (Decimal.ofDigits whole []).toFloat, rest)

/-- The token that starts a text, and the text after it. -/
def next? : List Char → Option (Token × List Char)
  | [] => none
  | c :: rest =>
    if c.isDigit then
      some (nextNumber (c :: rest))
    else
      (ofSymbol? c).map fun token => (token, rest)

private theorem length_dropWhile_le (p : Char → Bool) (text : List Char) :
  (text.dropWhile p).length ≤ text.length
  := (List.dropWhile_suffix p).length_le

/-- A number leaves less than the text it starts. -/
theorem length_nextNumber_lt {c : Char} {rest : List Char} (h : c.isDigit) :
  (nextNumber (c :: rest)).2.length < (c :: rest).length
  := by
  have hrest := length_dropWhile_le Char.isDigit rest
  unfold nextNumber
  rw [List.dropWhile_cons_of_pos h]
  split
  · next after hafter =>
    have hlen := length_dropWhile_le Char.isDigit after
    rw [hafter, List.length_cons] at hrest
    simp only [List.length_cons]
    omega
  · simp only [List.length_cons]
    omega

/-- A token leaves less than the text it starts. -/
theorem length_lt_of_next? {text rest : List Char} {token : Token}
    (h : next? text = some (token, rest)) :
  rest.length < text.length
  := by
  cases text with
  | nil => cases h
  | cons c after =>
    simp only [next?] at h
    split at h
    · next hc =>
      have hlt : (nextNumber (c :: after)).2.length < (c :: after).length :=
        length_nextNumber_lt hc
      rw [Option.some.inj h] at hlt
      exact hlt
    · obtain ⟨_, _, heq⟩ := Option.map_eq_some_iff.mp h
      cases heq
      simp

/-- The tokens of a text, leniently: characters that start no token are passed over. -/
def scanChars : List Char → List Token
  | [] => []
  | c :: after =>
    match _ : next? (c :: after) with
    | some (token, rest) => token :: scanChars rest
    | none => scanChars after
termination_by text => text.length
decreasing_by
  · exact length_lt_of_next? ‹_›
  · simp

/-- The tokens at the start of a text with only white space between them, and the text
from the first character that is neither. -/
def readTokens : List Char → List Token × List Char
  | [] => ([], [])
  | c :: after =>
    if Text.isBlank c then
      readTokens after
    else
      match _ : next? (c :: after) with
      | some (token, rest) =>
        let (tokens, stop) := readTokens rest
        (token :: tokens, stop)
      | none => ([], c :: after)
termination_by text => text.length
decreasing_by
  · simp
  · exact length_lt_of_next? ‹_›

/-- The number of bytes that encode a text. -/
def byteLength (text : List Char) : Nat :=
  (text.map Char.utf8Size).foldr (· + ·) 0

/-- The tokens of a text, strictly: a character that starts no token must be white space. -/
def scanCharsStrict (text : List Char) : Except Fault (List Token) :=
  match readTokens text with
  | (tokens, []) => .ok tokens
  | (_, c :: rest) =>
    .error (.unexpectedCharacter c (byteLength text - byteLength (c :: rest)))

/-- The tokens of a text, leniently. -/
def scan (text : String) : List Token :=
  scanChars text.toList

/-- The tokens of a text, strictly. -/
def scanStrict (text : String) : Except Fault (List Token) :=
  scanCharsStrict text.toList

end DeskCalculator.Token
