import DeskCalculator.Text.Blank
import DeskCalculator.Text.Lowercase

/-!
# Texts in lower case

A text is in lower case already if each of its characters keeps its case, that is, if the
character is its own lower-case form whatever stands around it (`lowercase_eq_self`).  White
space keeps its case, and so do the characters with the code points of a parenthesis, an
operator, a point or a digit.
-/

namespace DeskCalculator.Text

/-- A character that is its own lower-case form, whatever stands around it. -/
def KeepsCase (c : Char) : Prop :=
  ∀ before after, lowerInContext before c after = [c]

/-- A text behind any other one is its own lower-case form if its characters keep their
case. -/
theorem lowercaseAfter_eq_self {text : List Char} (h : ∀ c ∈ text, KeepsCase c)
    (before : List Char) :
  lowercaseAfter before text = text
  := by
  induction text generalizing before with
  | nil => rfl
  | cons c after ih =>
    obtain ⟨hc, hafter⟩ := List.forall_mem_cons.mp h
    rw [lowercaseAfter, hc, ih hafter, List.singleton_append]

/-- A text whose characters keep their case is its own lower-case form. -/
theorem lowercase_eq_self {text : List Char} (h : ∀ c ∈ text, KeepsCase c) :
  lowercase text = text
  := lowercaseAfter_eq_self h []

/-- A character outside all runs of letters keeps its case, but for the capital I with a
dot. -/
theorem keepsCase_of_findSome? {c : Char} (hdot : c ≠ 'İ')
    (h : (caseRuns.findSome? fun run => run.lower? c.toNat) = none) :
  KeepsCase c
  := by
  have hsigma : c ≠ 'Σ' := by
    rintro rfl
    revert h
    decide +kernel
  intro before after
  rw [lowerInContext, if_neg hsigma, if_neg hdot, lowerChar, h]

/-- The characters of a list of code points outside all runs of letters keep their case. -/
theorem keepsCase_of_mem {codes : List Nat} {c : Char} (hc : c.toNat ∈ codes)
    (hdot : 'İ'.toNat ∉ codes)
    (h : ∀ code ∈ codes, (caseRuns.findSome? fun run => run.lower? code) = none) :
  KeepsCase c
  := by
  apply keepsCase_of_findSome? _ (h _ hc)
  rintro rfl
  apply hdot hc

/-- White space keeps its case. -/
theorem keepsCase_of_isBlank {c : Char} (h : isBlank c) :
  KeepsCase c
  := by
  apply @keepsCase_of_mem blankCodes c (List.contains_iff_mem.mp h)
  · decide
  · decide +kernel

/-- The characters from an opening parenthesis to the digits keep their case: the parentheses,
the operators, the comma, the point and the digits. -/
theorem keepsCase_of_toNat {c : Char} (hfirst : 40 ≤ c.toNat) (hlast : c.toNat ≤ 57) :
  KeepsCase c
  := by
  apply @keepsCase_of_mem (List.range' 40 18) c
  · apply List.mem_range'_1.mpr
    omega
  · decide
  · decide +kernel

end DeskCalculator.Text
