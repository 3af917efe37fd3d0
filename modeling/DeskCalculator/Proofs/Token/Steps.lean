import DeskCalculator.Token.Scan

/-!
# Steps of the two readings

One step of the lenient and one step of the strict reading, for each way in which a text
can begin: with a token, with white space, or with another character.
-/

namespace DeskCalculator.Token

variable {c : Char} {after text rest : List Char} {token : Token}

/-! ### The lenient reading -/

@[simp]
theorem scanChars_nil :
  scanChars [] = []
  := by
  rw [scanChars]

/-- A token at the start is read. -/
theorem scanChars_of_next?_eq_some (h : next? text = some (token, rest)) :
  scanChars text = token :: scanChars rest
  := by
  cases text with
  | nil => cases h
  | cons c after =>
    rw [scanChars]
    split
    · next htoken =>
      rw [h] at htoken
      cases htoken
      rfl
    · next hnone =>
      rw [h] at hnone
      cases hnone

/-- A character that starts no token is passed over. -/
theorem scanChars_of_next?_eq_none (h : next? (c :: after) = none) :
  scanChars (c :: after) = scanChars after
  := by
  rw [scanChars]
  split
  · next htoken =>
    rw [h] at htoken
    cases htoken
  · rfl

/-! ### The strict reading

White space starts no token, so the two ways in which the strict reading goes on exclude
each other. -/

/-- White space is no digit. -/
theorem not_isDigit_of_isBlank (h : Text.isBlank c) :
  ¬ c.isDigit
  := by
  intro hdigit
  rw [Text.isBlank_of_isDigit hdigit] at h
  cases h

/-- White space writes no token on its own. -/
theorem ofSymbol?_of_isBlank (h : Text.isBlank c) :
  ofSymbol? c = none
  := by
  unfold ofSymbol?
  split
  · cases h
  · cases h
  · rw [Option.map_eq_none_iff]
    cases hop : Operator.ofSymbol? c with
    | none => rfl
    | some op =>
      rw [← Operator.symbol_of_ofSymbol? hop] at h
      cases op <;> cases h

/-- No token starts with a character that is neither a digit nor a token on its own. -/
theorem next?_eq_none_iff :
  next? (c :: after) = none ↔ ¬ c.isDigit ∧ ofSymbol? c = none
  := by
  rw [next?]
  split
  · next hdigit => simp [hdigit]
  · next hdigit => simp [hdigit, Option.map_eq_none_iff]

/-- White space starts no token. -/
theorem next?_of_isBlank (h : Text.isBlank c) :
  next? (c :: after) = none
  := next?_eq_none_iff.mpr ⟨not_isDigit_of_isBlank h, ofSymbol?_of_isBlank h⟩

@[simp]
theorem readTokens_nil :
  readTokens [] = ([], [])
  := by
  rw [readTokens]

/-- White space at the start is passed over. -/
theorem readTokens_of_isBlank (h : Text.isBlank c) :
  readTokens (c :: after) = readTokens after
  := by
  rw [readTokens, if_pos h]

/-- A token at the start is read. -/
theorem readTokens_of_next?_eq_some (h : next? text = some (token, rest)) :
  readTokens text = (token :: (readTokens rest).1, (readTokens rest).2)
  := by
  cases text with
  | nil => cases h
  | cons c after =>
    have hblank : ¬ Text.isBlank c := by
      intro hblank
      rw [next?_of_isBlank hblank] at h
      cases h
    rw [readTokens, if_neg hblank]
    split
    · next htoken =>
      rw [h] at htoken
      cases htoken
      rfl
    · next hnone =>
      rw [h] at hnone
      cases hnone

/-- Another character at the start ends the reading. -/
theorem readTokens_of_next?_eq_none (hblank : ¬ Text.isBlank c)
    (h : next? (c :: after) = none) :
  readTokens (c :: after) = ([], c :: after)
  := by
  rw [readTokens, if_neg hblank]
  split
  · next htoken =>
    rw [h] at htoken
    cases htoken
  · rfl

end DeskCalculator.Token
