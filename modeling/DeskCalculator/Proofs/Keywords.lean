import DeskCalculator.Proofs.Calculator
import DeskCalculator.Proofs.Text.Lowercase
import DeskCalculator.Proofs.Token.Refusal

/-!
# Keywords and expressions

A text that the strict reading accepts consists of white space and of the characters of tokens.
All of them keep their case, so the text is its own lower-case form, and a word with any other
character is not mentioned in it.  Therefore words of this kind never stand in the way of such
a text: it is evaluated, and strict and lenient calculators agree on it
(`respond_of_accepted`).
-/

namespace DeskCalculator.Token

open Grammar

variable {c : Char} {text : List Char} {tokens : List Token}

/-- Whether a character may stand in an accepted text: it is white space, a digit, a point, an
operator or a parenthesis. -/
def isArithmetic (c : Char) : Bool :=
  Text.isBlank c || c.isDigit || c = '.' || (ofSymbol? c).isSome

theorem isArithmetic_iff :
  isArithmetic c ↔ Text.isBlank c ∨ c.isDigit ∨ c = '.' ∨ (ofSymbol? c).isSome
  := by
  simp [isArithmetic, or_assoc]

/-- The characters of a terminal may stand in an accepted text. -/
theorem isArithmetic_of_mem_text {terminal : Terminal Literal} (hc : c ∈ terminal.text) :
  isArithmetic c
  := by
  cases terminal with
  | literal a =>
    apply isArithmetic_iff.mpr
    obtain hdigit | hpoint := a.isDigit_or_eq_point_of_mem_text hc
    · exact Or.inr (Or.inl hdigit)
    · exact Or.inr (Or.inr (Or.inl hpoint))
  | operator op =>
    obtain rfl := List.mem_singleton.mp hc
    cases op <;> decide
  | opening =>
    obtain rfl := List.mem_singleton.mp hc
    decide
  | closing =>
    obtain rfl := List.mem_singleton.mp hc
    decide

/-- In an accepted text, the lenient reading passes over white space only. -/
theorem isBlank_of_mem_skipped (h : scanCharsStrict text = .ok tokens) (hc : c ∈ skipped text) :
  Text.isBlank c
  := by
  by_contra hblank
  obtain ⟨before, d, hfirst⟩ := exists_firstRefused ⟨c, hc, hblank⟩
  have hrefused := hfirst.scanCharsStrict_eq
  rw [h] at hrefused
  cases hrefused

/-- The characters of an accepted text. -/
theorem isArithmetic_of_mem (h : scanCharsStrict text = .ok tokens) (hc : c ∈ text) :
  isArithmetic c
  := by
  rw [← flatMap_text_fragments text] at hc
  obtain ⟨part, hpart, hc⟩ := List.mem_flatMap.mp hc
  cases part with
  | lexeme lexeme token =>
    obtain ⟨terminal, rfl, -⟩ := exists_terminal_of_mem_fragments hpart
    apply isArithmetic_of_mem_text hc
  | skipped d =>
    obtain rfl := List.mem_singleton.mp hc
    have hskipped : c ∈ skipped text := List.mem_filterMap.mpr ⟨_, hpart, rfl⟩
    exact isArithmetic_iff.mpr (Or.inl (isBlank_of_mem_skipped h hskipped))

/-- The code points of the parentheses and the operators. -/
theorem toNat_of_ofSymbol? (h : (ofSymbol? c).isSome) :
  40 ≤ c.toNat ∧ c.toNat ≤ 57
  := by
  unfold ofSymbol? at h
  split at h
  · decide
  · decide
  · rw [Option.isSome_map] at h
    obtain ⟨op, hop⟩ := Option.isSome_iff_exists.mp h
    rw [← Operator.symbol_of_ofSymbol? hop]
    cases op <;> decide

/-- A character that may stand in an accepted text keeps its case. -/
theorem keepsCase_of_isArithmetic (h : isArithmetic c) :
  Text.KeepsCase c
  := by
  obtain hblank | hdigit | rfl | hsymbol := isArithmetic_iff.mp h
  · apply Text.keepsCase_of_isBlank hblank
  · have hcode : 48 ≤ c.toNat ∧ c.toNat ≤ 57 := Char.isDigit_iff_toNat.mp hdigit
    apply Text.keepsCase_of_toNat <;> omega
  · apply Text.keepsCase_of_toNat <;> decide
  · obtain ⟨hfirst, hlast⟩ := toNat_of_ofSymbol? hsymbol
    apply Text.keepsCase_of_toNat hfirst hlast

end DeskCalculator.Token

namespace DeskCalculator.Expression

open Token

/-- Both readings give an accepted text the same outcome. -/
theorem value_true_of_accepted {text : String} {tokens : List Token}
    (h : scanStrict text = .ok tokens) :
  value true text = value false text
  := by
  have hscan : scanStrict text = .ok (scan text) :=
    scanCharsStrict_of_isBlank fun c hc => isBlank_of_mem_skipped h hc
  rw [value, Expression.tokens, if_pos rfl, hscan]
  rfl

end DeskCalculator.Expression

namespace DeskCalculator.Calculator

open Token

/-- Every word but the empty one has a character that stands in no accepted text. -/
def AreForeign (words : List String) : Prop :=
  ∀ word ∈ words, word ≠ "" → ∃ c ∈ word.toList, ¬ isArithmetic c

instance (words : List String) : Decidable (AreForeign words) :=
  decidable_of_iff
    (words.all fun word => word = "" || word.toList.any fun c => !isArithmetic c)
    (by simp [AreForeign, or_iff_not_imp_left])

/-- Foreign words are not mentioned among characters of accepted texts. -/
theorem mentions_eq_false {words : List String} (hwords : AreForeign words) {text : List Char}
    (htext : ∀ c ∈ text, isArithmetic c) :
  mentions text words = false
  := by
  rw [mentions, List.any_eq_false]
  intro word hword hmentioned
  obtain ⟨hne, hoccurs⟩ := Bool.and_eq_true_iff.mp hmentioned
  obtain ⟨c, hc, hforeign⟩ := hwords word hword (by simpa using hne)
  apply hforeign
  apply htext c
  apply ((Text.occurs_iff _ _).mp hoccurs).subset hc

/-- An accepted text is evaluated by a calculator with foreign words, as a lenient calculator
evaluates it. -/
theorem reply_of_accepted {calculator : Calculator}
    (hwords : AreForeign (calculator.greetings ++ calculator.farewells))
    {text : String} {tokens : List Token} (htext : scanStrict text = .ok tokens) :
  calculator.reply text = Reply.ofValue (Expression.value false text)
  := by
  obtain ⟨hgreetings, hfarewells⟩ := List.forall_mem_append.mp hwords
  have hchars : ∀ c ∈ text.toList, isArithmetic c := fun c hc => isArithmetic_of_mem htext hc
  have hlower : Text.lowercase text.toList = text.toList :=
    Text.lowercase_eq_self fun c hc => keepsCase_of_isArithmetic (hchars c hc)
  have hvalue : Expression.value calculator.strict text = Expression.value false text := by
    cases hstrict : calculator.strict with
    | false => rfl
    | true => apply Expression.value_true_of_accepted htext
  rw [reply_of_not_mentions, hvalue]
  · rw [hlower]
    apply mentions_eq_false hgreetings hchars
  · rw [hlower]
    apply mentions_eq_false hfarewells hchars

/-- Calculators with the same foreign words evaluate an accepted text, be they strict or
lenient: they give the same reply, which tells the outcome of the evaluation, and remember the
same result.  The words of a calculator are foreign unless others are given. -/
theorem respond_of_accepted :
  AreForeign (({} : Calculator).greetings ++ ({} : Calculator).farewells)
    ∧ ∀ {greetings farewells : List String}, AreForeign (greetings ++ farewells) →
      ∀ {text : String} {tokens : List Token}, scanStrict text = .ok tokens →
        ∀ first second : Option Float,
          let lenient : Calculator := ⟨greetings, farewells, false, first⟩
          let strict : Calculator := ⟨greetings, farewells, true, second⟩
          (lenient.respond text).1 ≠ .greeting ∧ (lenient.respond text).1 ≠ .farewell
            ∧ (strict.respond text).1 = (lenient.respond text).1
            ∧ (∀ x, (lenient.respond text).1 = .result x ↔ Expression.value false text = .ok x)
            ∧ (∀ fault, (lenient.respond text).1 = .error fault
              ↔ Expression.value false text = .error fault)
            ∧ (first = second →
              (strict.respond text).2.lastResult = (lenient.respond text).2.lastResult)
  := by
  refine ⟨by decide +kernel, ?_⟩
  intro greetings farewells hwords text tokens htext first second lenient strict
  have hlenient : lenient.reply text = Reply.ofValue (Expression.value false text) :=
    reply_of_accepted hwords htext
  have hstrict : strict.reply text = Reply.ofValue (Expression.value false text) :=
    reply_of_accepted hwords htext
  rw [respond, respond, hlenient, hstrict]
  cases Expression.value false text with
  | ok x => simp [Reply.ofValue, remember]
  | error fault => simp [Reply.ofValue, remember, lenient, strict, eq_comm]

/-- With the words given by default, a text with several kinds of white space has its value for
both calculators, and both remember it. -/
theorem respond_of_accepted_between_blanks :
  scanStrict "\u00a0(1.5 + 2.)\u2003*2\u0085"
      = .ok [.opening, .number 1.5, .operator .add, .number 2, .closing, .operator .multiply,
          .number 2]
    ∧ (Calculator.respond {} "\u00a0(1.5 + 2.)\u2003*2\u0085").1 = .result 7
    ∧ (Calculator.respond { strict := true } "\u00a0(1.5 + 2.)\u2003*2\u0085").1 = .result 7
    ∧ (Calculator.respond { strict := true } "\u00a0(1.5 + 2.)\u2003*2\u0085").2.lastResult
      = (Calculator.respond {} "\u00a0(1.5 + 2.)\u2003*2\u0085").2.lastResult
  := by
  have htext : scanStrict "\u00a0(1.5 + 2.)\u2003*2\u0085"
      = .ok [.opening, .number 1.5, .operator .add, .number 2, .closing, .operator .multiply,
          .number 2] := by
    decide +kernel
  have hvalue : Expression.value false "\u00a0(1.5 + 2.)\u2003*2\u0085" = .ok 7 := by
    decide +kernel
  obtain ⟨hwords, hrespond⟩ := respond_of_accepted
  obtain ⟨-, -, hsame, hresult, -, hlast⟩ := hrespond hwords htext none none
  have hlenient := (hresult 7).mpr hvalue
  exact ⟨htext, hlenient, hsame.trans hlenient, hlast rfl⟩

end DeskCalculator.Calculator
