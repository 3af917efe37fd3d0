import DeskCalculator.Proofs.Text.Bytes
import DeskCalculator.Text.Blank
import DeskCalculator.Text.Lowercase

/-!
# The case of the letters from A to Z

`Char.toLower` turns the capital letters from `A` to `Z` into small ones, and leaves every other
character as it is.  What is the same for these 26 letters and their small ones is the same for
each character and its small one (`apply_toLower`): being a digit, white space, cased, the number
of bytes.  The lower-case form of a text is that of the text with small letters
(`lowercase_map_toLower`), also where a sigma stands among such letters.
-/

namespace DeskCalculator.Text

variable {α : Type}

/-- The code points of the letters from `A` to `Z`. -/
def capitalCodes : List Nat :=
  List.range' 65 26

/-- A character is left as it is, unless it is a letter from `A` to `Z`. -/
theorem toLower_eq_self_or (c : Char) :
  c.toLower = c
    ∨ ∃ code ∈ capitalCodes, c = Char.ofNat code ∧ c.toLower = Char.ofNat (code + 32)
  := by
  by_cases h : c.val ≥ 'A'.val ∧ c.val ≤ 'Z'.val
  · right
    have hcode : c.toNat ∈ capitalCodes := by
      obtain ⟨hfirst, hlast⟩ := h
      rw [ge_iff_le, UInt32.le_iff_toNat_le] at hfirst
      rw [UInt32.le_iff_toNat_le] at hlast
      exact List.mem_range'_1.mpr ⟨hfirst, Nat.lt_succ_of_le hlast⟩
    have hsmall : ∀ code ∈ capitalCodes, (Char.ofNat code).toLower = Char.ofNat (code + 32) := by
      decide
    use c.toNat, hcode, (Char.ofNat_toNat c).symm
    rw [← hsmall _ hcode, Char.ofNat_toNat]
  · left
    apply dif_neg h

/-- What is the same for the letters from `A` to `Z` and their small letters is the same for all
characters and theirs. -/
theorem apply_toLower {f : Char → α}
    (h : ∀ code ∈ capitalCodes, f (Char.ofNat (code + 32)) = f (Char.ofNat code)) (c : Char) :
  f c.toLower = f c
  := by
  obtain hself | ⟨code, hcode, hcapital, hsmall⟩ := toLower_eq_self_or c
  · rw [hself]
  · rw [hsmall, h code hcode, hcapital]

/-! ### What small letters have in common with capital ones -/

theorem isDigit_toLower (c : Char) :
  c.toLower.isDigit = c.isDigit
  := apply_toLower (by decide) c

theorem isBlank_toLower (c : Char) :
  isBlank c.toLower = isBlank c
  := apply_toLower (by decide) c

theorem utf8Size_toLower (c : Char) :
  c.toLower.utf8Size = c.utf8Size
  := apply_toLower (by decide) c

theorem lowerChar_toLower (c : Char) :
  lowerChar c.toLower = lowerChar c
  := apply_toLower (by decide) c

theorem isCased_toLower (c : Char) :
  isCased c.toLower = isCased c
  := apply_toLower (by decide) c

theorem isCaseIgnorable_toLower (c : Char) :
  isCaseIgnorable c.toLower = isCaseIgnorable c
  := apply_toLower (by decide) c

/-- Only a letter from `A` to `Z` or its small letter becomes a small letter. -/
theorem toLower_eq_iff {d : Char} (h : ∀ code ∈ capitalCodes,
      d ≠ Char.ofNat (code + 32) ∧ d ≠ Char.ofNat code) (c : Char) :
  c.toLower = d ↔ c = d
  := by
  apply iff_of_eq
  apply @apply_toLower Prop (· = d)
  intro code hcode
  obtain ⟨hsmall, hcapital⟩ := h code hcode
  rw [eq_false hsmall.symm, eq_false hcapital.symm]

theorem byteLength_map_toLower (text : List Char) :
  Token.byteLength (text.map Char.toLower) = Token.byteLength text
  := by
  induction text with
  | nil => rfl
  | cons c rest ih =>
    rw [List.map_cons, Token.byteLength_cons, Token.byteLength_cons, utf8Size_toLower, ih]

/-! ### Lower-case forms -/

/-- Whether a text starts with a cased letter does not depend on the case of its letters. -/
theorem startsCased_map_toLower (text : List Char) :
  startsCased (text.map Char.toLower) = startsCased text
  := by
  have hignorable : isCaseIgnorable ∘ Char.toLower = isCaseIgnorable :=
    funext isCaseIgnorable_toLower
  rw [startsCased, startsCased, List.dropWhile_map, hignorable]
  cases text.dropWhile isCaseIgnorable with
  | nil => rfl
  | cons c rest => apply isCased_toLower

theorem lowerInContext_toLower (before : List Char) (c : Char) (after : List Char) :
  lowerInContext (before.map Char.toLower) c.toLower (after.map Char.toLower)
    = lowerInContext before c after
  := by
  have hsigma : c.toLower = 'Σ' ↔ c = 'Σ' := toLower_eq_iff (by decide) c
  have hdot : c.toLower = 'İ' ↔ c = 'İ' := toLower_eq_iff (by decide) c
  simp only [lowerInContext, hsigma, hdot, startsCased_map_toLower, lowerChar_toLower]

theorem lowercaseAfter_map_toLower (before text : List Char) :
  lowercaseAfter (before.map Char.toLower) (text.map Char.toLower) = lowercaseAfter before text
  := by
  induction text generalizing before with
  | nil => rfl
  | cons c after ih =>
    rw [List.map_cons, lowercaseAfter, lowercaseAfter, lowerInContext_toLower, ← List.map_cons, ih]

/-- A text and the text with small letters have one lower-case form. -/
theorem lowercase_map_toLower (text : List Char) :
  lowercase (text.map Char.toLower) = lowercase text
  := lowercaseAfter_map_toLower [] text

end DeskCalculator.Text
