import DeskCalculator.Proofs.Decimal.Nearest
import DeskCalculator.Proofs.Token.Fragments

/-!
# Factorisations

A text is factorised from left to right into lexemes and skipped characters.  A digit starts a
number, which is a literal that the text does not go on with; an operator or a parenthesis is a
lexeme; a character is skipped if it is neither.

A text has one factorisation, its fragments (`factors_iff`), and the lenient reading gives the
tokens of the lexemes (`scan_of_factors`).  Each place of the text lies in one part of the
factorisation (`exists_covers`, `Covers.unique`), and what this part is depends on the character
there (`Factors.isPartOf`).
-/

namespace DeskCalculator.Token

open Grammar

variable {c : Char} {text rest : List Char} {token : Token} {part : Fragment}
  {parts : List Fragment}

/-- The parts of a factorisation of a text. -/
inductive Factors : List Char → List Fragment → Prop where
  | nil : Factors [] []
  | number {rest : List Char} {parts : List Fragment} (literal : Literal)
      (hends : literal.EndsBefore rest) (hrest : Factors rest parts) :
      Factors (literal.text ++ rest) (.lexeme literal.text (.number literal.toFloat) :: parts)
  | symbol {c : Char} {rest : List Char} {token : Token} {parts : List Fragment}
      (hsymbol : ofSymbol? c = some token) (hrest : Factors rest parts) :
      Factors (c :: rest) (.lexeme [c] token :: parts)
  | skipped {c : Char} {rest : List Char} {parts : List Fragment} (hdigit : ¬ c.isDigit)
      (hsymbol : ofSymbol? c = none) (hrest : Factors rest parts) :
      Factors (c :: rest) (.skipped c :: parts)

/-! ### The factorisation of a text -/

/-- The fragments of a text are a factorisation. -/
theorem factors_fragments (text : List Char) :
  Factors text (fragments text)
  := by
  induction text using reading_induction with
  | nil =>
    rw [fragments_nil]
    apply Factors.nil
  | lexeme lexeme rest token hnext ih =>
    rw [fragments_of_next?_eq_some hnext]
    obtain ⟨terminal, htext, rfl, hends⟩ := next?_eq_some_iff.mp hnext
    obtain rfl := List.append_cancel_right htext
    cases terminal with
    | literal a => apply Factors.number a (hends a rfl) ih
    | operator op =>
      apply Factors.symbol _ ih
      cases op <;> rfl
    | opening => apply Factors.symbol rfl ih
    | closing => apply Factors.symbol rfl ih
  | skipped c after hnext ih =>
    rw [fragments_of_next?_eq_none hnext]
    obtain ⟨hdigit, hsymbol⟩ := next?_eq_none_iff.mp hnext
    apply Factors.skipped hdigit hsymbol ih

/-- A token that is written with one character is read off it. -/
theorem next?_of_ofSymbol? (h : ofSymbol? c = some token) (rest : List Char) :
  next? (c :: rest) = some (token, rest)
  := by
  obtain ⟨terminal, htext, htoken, hliteral⟩ := exists_terminal_of_ofSymbol? h
  apply next?_eq_some_iff.mpr
  use terminal
  refine ⟨?_, htoken, fun a ha => absurd ha (hliteral a)⟩
  rw [htext]
  rfl

/-- A factorisation of a text consists of its fragments. -/
theorem Factors.eq_fragments (h : Factors text parts) :
  parts = fragments text
  := by
  induction h with
  | nil => rw [fragments_nil]
  | @number rest parts literal hends hrest ih =>
    have hnext : next? (literal.text ++ rest) = some (.number literal.toFloat, rest) := by
      apply next?_text_append (.literal literal)
      rintro _ ⟨⟩
      apply hends
    rw [fragments_of_next?_eq_some hnext, ih]
  | @symbol c rest token parts hsymbol hrest ih =>
    have hnext : next? ([c] ++ rest) = some (token, rest) := next?_of_ofSymbol? hsymbol rest
    have hfragments := fragments_of_next?_eq_some hnext
    rw [List.singleton_append] at hfragments
    rw [hfragments, ih]
  | skipped hdigit hsymbol hrest ih =>
    rw [fragments_of_next?_eq_none (next?_eq_none_iff.mpr ⟨hdigit, hsymbol⟩), ih]

/-- A text has one factorisation, its fragments. -/
theorem factors_iff :
  Factors text parts ↔ parts = fragments text
  := by
  constructor
  · apply Factors.eq_fragments
  · rintro rfl
    apply factors_fragments

/-! ### The parts and their characters -/

/-- What a part can be that has a character: a digit is part of a literal, a token of one character
is a part of its own, a point is part of a literal or skipped, and any other character is
skipped. -/
structure IsPartOf (c : Char) (part : Fragment) : Prop where
  digit : c.isDigit →
    ∃ literal : Literal, c ∈ literal.text ∧ part = .lexeme literal.text (.number literal.toFloat)
  symbol : ∀ token, ofSymbol? c = some token → part = .lexeme [c] token
  point : c = '.' → (part = .skipped c
    ↔ ¬ ∃ literal : Literal, part = .lexeme literal.text (.number literal.toFloat))
  other : ¬ c.isDigit → ofSymbol? c = none → c ≠ '.' → part = .skipped c

/-- An operator or a parenthesis is neither a digit nor a point. -/
theorem not_isDigit_of_ofSymbol? (h : ofSymbol? c = some token) :
  ¬ c.isDigit ∧ c ≠ '.'
  := by
  obtain ⟨terminal, htext, -, hliteral⟩ := exists_terminal_of_ofSymbol? h
  cases terminal with
  | literal a => exact absurd rfl (hliteral a)
  | operator op =>
    cases htext
    cases op <;> decide
  | opening =>
    cases htext
    decide
  | closing =>
    cases htext
    decide

theorem isPartOf_literal {literal : Literal} (hc : c ∈ literal.text) :
  IsPartOf c (.lexeme literal.text (.number literal.toFloat))
  := by
  have hchar := literal.isDigit_or_eq_point_of_mem_text hc
  constructor
  · intro _
    use literal
  · intro token hsymbol
    obtain ⟨hdigit, hpoint⟩ := not_isDigit_of_ofSymbol? hsymbol
    exact absurd hchar (not_or.mpr ⟨hdigit, hpoint⟩)
  · intro _
    constructor
    · intro h
      cases h
    · intro h
      exact absurd ⟨literal, rfl⟩ h
  · intro hdigit _ hpoint
    exact absurd hchar (not_or.mpr ⟨hdigit, hpoint⟩)

theorem isPartOf_symbol (hsymbol : ofSymbol? c = some token) :
  IsPartOf c (.lexeme [c] token)
  := by
  obtain ⟨hdigit, hpoint⟩ := not_isDigit_of_ofSymbol? hsymbol
  constructor
  · intro h
    exact absurd h hdigit
  · intro token' hsymbol'
    rw [hsymbol] at hsymbol'
    cases hsymbol'
    rfl
  · intro h
    exact absurd h hpoint
  · intro _ hnone
    rw [hsymbol] at hnone
    cases hnone

theorem isPartOf_skipped (hdigit : ¬ c.isDigit) (hsymbol : ofSymbol? c = none) :
  IsPartOf c (.skipped c)
  := by
  constructor
  · intro h
    exact absurd h hdigit
  · intro token h
    rw [hsymbol] at h
    cases h
  · intro _
    constructor
    · rintro - ⟨literal, hliteral⟩
      cases hliteral
    · exact fun _ => rfl
  · intro _ _ _
    rfl

/-- What a part of a factorisation is depends on its characters. -/
theorem Factors.isPartOf (h : Factors text parts) (hpart : part ∈ parts) (hc : c ∈ part.text) :
  IsPartOf c part
  := by
  induction h with
  | nil => cases hpart
  | number literal hends hrest ih =>
    obtain rfl | hpart := List.mem_cons.mp hpart
    · apply isPartOf_literal hc
    · apply ih hpart
  | symbol hsymbol hrest ih =>
    obtain rfl | hpart := List.mem_cons.mp hpart
    · obtain rfl := List.mem_singleton.mp hc
      apply isPartOf_symbol hsymbol
    · apply ih hpart
  | skipped hdigit hsymbol hrest ih =>
    obtain rfl | hpart := List.mem_cons.mp hpart
    · obtain rfl := List.mem_singleton.mp hc
      apply isPartOf_skipped hdigit hsymbol
    · apply ih hpart

/-- The number of a lexeme is the value of a literal with its characters. -/
theorem Factors.exists_literal {lexeme : List Char} {x : Float} (h : Factors text parts)
    (hpart : .lexeme lexeme (.number x) ∈ parts) :
  ∃ literal : Literal, lexeme = literal.text ∧ x = literal.toFloat
  := by
  rw [factors_iff.mp h] at hpart
  obtain ⟨terminal, htext, htoken⟩ := exists_terminal_of_mem_fragments hpart
  cases terminal with
  | literal a =>
    cases htoken
    use a, htext
  | operator op => cases htoken
  | opening => cases htoken
  | closing => cases htoken

/-! ### The places of a text -/

/-- The number of characters in the first parts of a list. -/
def start (parts : List Fragment) (k : Nat) : Nat :=
  ((parts.take k).flatMap Fragment.text).length

theorem start_zero (parts : List Fragment) :
  start parts 0 = 0
  := rfl

theorem start_cons_succ (part : Fragment) (parts : List Fragment) (k : Nat) :
  start (part :: parts) (k + 1) = part.text.length + start parts k
  := by
  rw [start, List.take_succ_cons, List.flatMap_cons, List.length_append, start]

/-- More parts have more characters. -/
theorem start_mono (parts : List Fragment) {j k : Nat} (h : j ≤ k) :
  start parts j ≤ start parts k
  := by
  obtain ⟨n, rfl⟩ := Nat.exists_eq_add_of_le h
  rw [start, start, List.take_add, List.flatMap_append, List.length_append]
  apply Nat.le_add_right

/-- A place of a text lies in the part with a number. -/
def Covers (parts : List Fragment) (k place : Nat) : Prop :=
  start parts k ≤ place ∧ place < start parts (k + 1)

/-- A place lies in one part only. -/
theorem Covers.unique {j k place : Nat} (hj : Covers parts j place) (hk : Covers parts k place) :
  j = k
  := by
  obtain ⟨hjstart, hjend⟩ := hj
  obtain ⟨hkstart, hkend⟩ := hk
  obtain hlt | heq | hgt := Nat.lt_trichotomy j k
  · have hle : start parts (j + 1) ≤ start parts k := start_mono parts hlt
    omega
  · apply heq
  · have hle : start parts (k + 1) ≤ start parts j := start_mono parts hgt
    omega

/-- A place of the text lies in a part, which has the character at this place. -/
theorem exists_covers {parts : List Fragment} {place : Nat}
    (h : (parts.flatMap Fragment.text)[place]? = some c) :
  ∃ k part, parts[k]? = some part ∧ Covers parts k place ∧ c ∈ part.text
  := by
  induction parts generalizing place with
  | nil => cases h
  | cons first parts ih =>
    rw [List.flatMap_cons] at h
    by_cases hplace : place < first.text.length
    · rw [List.getElem?_append_left hplace] at h
      use 0, first, rfl
      refine ⟨⟨?_, ?_⟩, List.mem_of_getElem? h⟩
      · apply Nat.zero_le
      · rw [start_cons_succ, start_zero]
        apply hplace
    · rw [List.getElem?_append_right (Nat.le_of_not_lt hplace)] at h
      obtain ⟨k, part, hpart, ⟨hstart, hend⟩, hc⟩ := ih h
      use k + 1, part, hpart
      refine ⟨⟨?_, ?_⟩, hc⟩
      · rw [start_cons_succ]
        omega
      · rw [start_cons_succ]
        omega

/-! ### The lenient reading -/

/-- The lenient reading of a text gives the tokens of its one factorisation, in which nothing of
the text is lost: each place lies in one part, and what this part is depends on the character
there.  A number is the value of a literal with the characters of its lexeme, and has no
sign. -/
theorem scan_of_factors (text : String) :
  ∃ parts, Factors text.toList parts
    ∧ (∀ others, Factors text.toList others → others = parts)
    ∧ scan text = parts.filterMap Fragment.token?
    ∧ parts.flatMap Fragment.text = text.toList
    ∧ (∀ place c, text.toList[place]? = some c →
        ∃ k part, parts[k]? = some part ∧ Covers parts k place
          ∧ (∀ j, Covers parts j place → j = k) ∧ IsPartOf c part)
    ∧ ∀ lexeme x, .lexeme lexeme (.number x) ∈ parts →
        (∃ literal : Literal, lexeme = literal.text ∧ x = literal.toFloat)
          ∧ Binary64.IsUnsigned x
  := by
  have hfactors : Factors text.toList (fragments text.toList) := factors_iff.mpr rfl
  have htext := flatMap_text_fragments text.toList
  use fragments text.toList, hfactors
  refine ⟨fun others => factors_iff.mp, ?_, htext, ?_, ?_⟩
  · rw [filterMap_token?_fragments]
    rfl
  · intro place c hplace
    rw [← htext] at hplace
    obtain ⟨k, part, hpart, hcovers, hc⟩ := exists_covers hplace
    use k, part, hpart, hcovers
    constructor
    · exact fun j hj => hj.unique hcovers
    · apply hfactors.isPartOf (List.mem_of_getElem? hpart) hc
  · intro lexeme x hnumber
    obtain ⟨literal, hlexeme, rfl⟩ := hfactors.exists_literal hnumber
    constructor
    · use literal
    · apply Decimal.isUnsigned_toFloat

end DeskCalculator.Token
