import DeskCalculator.Proofs.Keywords
import DeskCalculator.Proofs.Outcome
import DeskCalculator.Proofs.Text.LetterCase

/-!
# The case of letters in messages

The letters from `A` to `Z` are parts of no token.  So a text with small letters in their place has
the same fragments, except that small letters are passed over (`fragments_map_toLower`), and the
strict reading refuses it at the same place (`scanCharsStrict_map_toLower`).  As the words are
looked up in the lower-case form, which is the same for both texts, a calculator gives the same
reply to messages that differ in the case of such letters only, but for the letter that a fault
names (`respond_of_equal_letters`).
-/

namespace DeskCalculator

/-- A fault with a small letter in place of the character that it names. -/
def Fault.lowered : Fault → Fault
  | unexpectedCharacter c offset => unexpectedCharacter c.toLower offset
  | fault => fault

/-- A reply with a small letter in place of the character that its fault names. -/
def Reply.lowered : Reply → Reply
  | error fault => error fault.lowered
  | reply => reply

/-- A fragment with a small letter in place of the character that it passes over. -/
def Token.Fragment.lowered : Fragment → Fragment
  | lexeme text token => lexeme text token
  | skipped c => skipped c.toLower

namespace Token

open Grammar

variable {text before lexeme rest : List Char} {c : Char} {token : Token}

/-! ### Fragments -/

/-- A character that may stand in an accepted text is no letter. -/
theorem toLower_of_isArithmetic (h : isArithmetic c) :
  c.toLower = c
  := by
  have hcapital : ∀ code ∈ Text.capitalCodes, isArithmetic (Char.ofNat code) = false := by
    decide
  obtain hself | ⟨code, hcode, rfl, -⟩ := Text.toLower_eq_self_or c
  · apply hself
  · rw [hcapital code hcode] at h
    cases h

/-- The texts of terminals have no letters. -/
theorem map_toLower_text (terminal : Terminal Literal) :
  terminal.text.map Char.toLower = terminal.text
  := by
  have hself : ∀ c ∈ terminal.text, c.toLower = id c := fun c hc =>
    toLower_of_isArithmetic (isArithmetic_of_mem_text hc)
  rw [List.map_congr_left hself, List.map_id]

/-- A literal ends before a text with small letters if it ends before the text. -/
theorem endsBefore_map_toLower {literal : Literal} (h : literal.EndsBefore rest) :
  literal.EndsBefore (rest.map Char.toLower)
  := by
  intro d hd
  rw [List.head?_map] at hd
  obtain ⟨c, hc, rfl⟩ := Option.map_eq_some_iff.mp hd
  have hpoint : c.toLower = '.' ↔ c = '.' := Text.toLower_eq_iff (by decide) c
  rw [Text.isDigit_toLower, ne_eq, hpoint]
  apply h c hc

/-- A text with small letters begins with the same token as the text. -/
theorem next?_map_toLower_of_eq_some (h : next? (lexeme ++ rest) = some (token, rest)) :
  next? (lexeme ++ rest.map Char.toLower) = some (token, rest.map Char.toLower)
    ∧ lexeme.map Char.toLower = lexeme
  := by
  obtain ⟨terminal, htext, htoken, hends⟩ := next?_eq_some_iff.mp h
  obtain rfl := List.append_cancel_right htext
  constructor
  · apply next?_eq_some_iff.mpr
    use terminal, rfl, htoken
    exact fun a ha => endsBefore_map_toLower (hends a ha)
  · apply map_toLower_text

/-- A text with small letters begins with no token if the text begins with none. -/
theorem next?_map_toLower_of_eq_none (h : next? (c :: rest) = none) :
  next? (c.toLower :: rest.map Char.toLower) = none
  := by
  have hsymbol : ofSymbol? c.toLower = ofSymbol? c := Text.apply_toLower (by decide) c
  rw [next?_eq_none_iff] at h ⊢
  rw [Text.isDigit_toLower, hsymbol]
  apply h

/-- The fragments of a text with small letters. -/
theorem fragments_map_toLower (text : List Char) :
  fragments (text.map Char.toLower) = (fragments text).map Fragment.lowered
  := by
  induction text using reading_induction with
  | nil => rw [List.map_nil, fragments_nil, List.map_nil]
  | lexeme lexeme rest token hnext ih =>
    obtain ⟨hlowered, hlexeme⟩ := next?_map_toLower_of_eq_some hnext
    rw [List.map_append, hlexeme, fragments_of_next?_eq_some hlowered,
      fragments_of_next?_eq_some hnext, ih]
    rfl
  | skipped c after hnext ih =>
    rw [List.map_cons, fragments_of_next?_eq_none (next?_map_toLower_of_eq_none hnext),
      fragments_of_next?_eq_none hnext, ih]
    rfl

/-! ### Readings -/

/-- The lenient reading passes over all letters. -/
theorem scanChars_map_toLower (text : List Char) :
  scanChars (text.map Char.toLower) = scanChars text
  := by
  have htoken : Fragment.token? ∘ Fragment.lowered = Fragment.token? := by
    funext part
    cases part <;> rfl
  rw [← filterMap_token?_fragments, fragments_map_toLower, List.filterMap_map, htoken,
    filterMap_token?_fragments]

theorem filterMap_skipped?_lowered (parts : List Fragment) :
  (parts.map Fragment.lowered).filterMap Fragment.skipped?
    = (parts.filterMap Fragment.skipped?).map Char.toLower
  := by
  rw [List.filterMap_map, List.map_filterMap]
  congr 1
  funext part
  cases part <;> rfl

theorem forall_isBlank_map_toLower {chars : List Char} (h : ∀ c ∈ chars, Text.isBlank c) :
  ∀ c ∈ chars.map Char.toLower, Text.isBlank c
  := by
  intro d hd
  obtain ⟨c, hc, rfl⟩ := List.mem_map.mp hd
  rw [Text.isBlank_toLower]
  apply h c hc

/-- A text with small letters is refused at the same place as the text. -/
theorem FirstRefused.map_toLower (h : FirstRefused text before c) :
  FirstRefused (text.map Char.toLower) (before.map Char.toLower) c.toLower
  := by
  obtain ⟨front, back, hfragments, rfl, hfront, hblank⟩ := h
  have htext : ∀ part ∈ front, part.lowered.text = part.text.map Char.toLower := by
    intro part hpart
    cases part with
    | lexeme lexeme token =>
      have hmem : .lexeme lexeme token ∈ fragments text := by
        rw [hfragments]
        apply List.mem_append_left _ hpart
      obtain ⟨terminal, rfl, -⟩ := exists_terminal_of_mem_fragments hmem
      apply (map_toLower_text terminal).symm
    | skipped c => rfl
  refine ⟨front.map Fragment.lowered, back.map Fragment.lowered, ?_, ?_, ?_, ?_⟩
  · rw [fragments_map_toLower, hfragments, List.map_append]
    rfl
  · rw [List.flatMap_map, List.map_flatMap]
    apply List.flatMap_congr htext
  · rw [filterMap_skipped?_lowered]
    apply forall_isBlank_map_toLower hfront
  · rw [Text.isBlank_toLower]
    apply hblank

/-- The strict reading of a text with small letters. -/
theorem scanCharsStrict_map_toLower (text : List Char) :
  scanCharsStrict (text.map Char.toLower) = (scanCharsStrict text).mapError Fault.lowered
  := by
  by_cases hblank : ∀ c ∈ skipped text, Text.isBlank c
  · have hlowered : ∀ c ∈ skipped (text.map Char.toLower), Text.isBlank c := by
      rw [skipped, fragments_map_toLower, filterMap_skipped?_lowered]
      apply forall_isBlank_map_toLower hblank
    rw [scanCharsStrict_of_isBlank hlowered, scanCharsStrict_of_isBlank hblank,
      scanChars_map_toLower]
    rfl
  · push Not at hblank
    obtain ⟨before, c, hfirst⟩ := exists_firstRefused hblank
    rw [hfirst.map_toLower.scanCharsStrict_eq, hfirst.scanCharsStrict_eq,
      Text.byteLength_map_toLower]
    rfl

end Token

/-! ### Values and replies -/

namespace Expression

/-- The tokens of a text with small letters. -/
theorem tokens_toLower (strict : Bool) (text : String) :
  tokens strict text.toLower = (tokens strict text).mapError Fault.lowered
  := by
  have htext : text.toLower.toList = text.toList.map Char.toLower := String.toList_map
  cases strict with
  | false =>
    have hscan : Token.scan text.toLower = Token.scan text := by
      rw [Token.scan, htext, Token.scanChars_map_toLower]
      rfl
    rw [tokens, if_neg Bool.false_ne_true, hscan]
    rfl
  | true =>
    rw [tokens, if_pos rfl, Token.scanStrict, htext, Token.scanCharsStrict_map_toLower]
    rfl

/-- The outcome of a text with small letters. -/
theorem value_toLower (strict : Bool) (text : String) :
  value strict text.toLower = (value strict text).mapError Fault.lowered
  := by
  apply value_eq_mapError _ (tokens_toLower strict text)
  intro read fault hexplains
  cases hexplains <;> rfl

end Expression

/-- Faults that are the same with small letters are the same, or they name the same letter. -/
theorem Fault.eq_or_of_lowered_eq {first second : Fault} (h : first.lowered = second.lowered) :
  first = second
    ∨ ∃ c d offset, first = unexpectedCharacter c offset ∧ second = unexpectedCharacter d offset
      ∧ c.toLower = d.toLower
  := by
  cases first with
  | unexpectedCharacter c offset =>
    cases second with
    | unexpectedCharacter d other =>
      obtain ⟨hletter, rfl⟩ := Fault.unexpectedCharacter.inj h
      exact Or.inr ⟨c, d, offset, rfl, rfl, hletter⟩
    | _ => cases h
  | _ =>
    left
    cases second with
    | unexpectedCharacter d other => cases h
    | _ => exact h

/-- Replies that are the same with small letters are the same, or their faults name the same
letter. -/
theorem Reply.eq_or_of_lowered_eq {first second : Reply} (h : first.lowered = second.lowered) :
  first = second
    ∨ ∃ c d offset, first = error (.unexpectedCharacter c offset)
      ∧ second = error (.unexpectedCharacter d offset) ∧ c.toLower = d.toLower
  := by
  cases first with
  | error fault =>
    cases second with
    | error other =>
      obtain rfl | ⟨c, d, offset, rfl, rfl, hletter⟩ :=
        Fault.eq_or_of_lowered_eq (Reply.error.inj h)
      · exact Or.inl rfl
      · exact Or.inr ⟨c, d, offset, rfl, rfl, hletter⟩
    | _ => cases h
  | _ =>
    left
    cases second with
    | error other => cases h
    | _ => exact h

namespace Calculator

/-- The reply to a message with small letters. -/
theorem reply_toLower (calculator : Calculator) (message : String) :
  calculator.reply message.toLower = (calculator.reply message).lowered
  := by
  have hlower : Text.lowercase message.toLower.toList = Text.lowercase message.toList := by
    rw [String.toLower, String.toList_map, Text.lowercase_map_toLower]
  rw [reply, reply, hlower, Expression.value_toLower]
  split
  · rfl
  · split
    · rfl
    · cases Expression.value calculator.strict message <;> rfl

/-- A reply with a fault that names a character is that of a strict calculator. -/
theorem strict_of_reply {calculator : Calculator} {message : String} {c : Char} {offset : Nat}
    (h : calculator.reply message = .error (.unexpectedCharacter c offset)) :
  calculator.strict = true
  := (Expression.exists_firstRefused_of_value (value_of_reply_error h)).1

/-- Messages that differ at most in the case of letters from `A` to `Z` have the same reply, and
the calculator remembers the same result.  Only a strict calculator may tell them apart: the
character that it refuses stands at the same place, and may differ in its case. -/
theorem respond_of_equal_letters (calculator : Calculator) {message other : String}
    (h : message.toLower = other.toLower) :
  (calculator.respond message).2 = (calculator.respond other).2
    ∧ ((calculator.respond message).1 = (calculator.respond other).1
      ∨ calculator.strict = true
        ∧ ∃ c d offset, (calculator.respond message).1 = .error (.unexpectedCharacter c offset)
          ∧ (calculator.respond other).1 = .error (.unexpectedCharacter d offset)
          ∧ c.toLower = d.toLower)
  := by
  have hlowered : (calculator.reply message).lowered = (calculator.reply other).lowered := by
    rw [← reply_toLower, h, reply_toLower]
  simp only [respond]
  obtain hsame | ⟨c, d, offset, hfirst, hsecond, hletter⟩ := Reply.eq_or_of_lowered_eq hlowered
  · rw [hsame]
    exact ⟨rfl, Or.inl rfl⟩
  · rw [hfirst, hsecond]
    exact ⟨rfl, Or.inr ⟨strict_of_reply hfirst, c, d, offset, rfl, rfl, hletter⟩⟩

/-- A sigma between letters of either case is no final one, so that the word with a final sigma is
mentioned in neither message.  The letter before it is refused, and named as it stands there. -/
theorem respond_of_equal_letters_around_sigma :
  "2 * BΣA".toLower = "2 * bΣa".toLower
    ∧ (Calculator.respond { greetings := ["ς"], strict := true } "2 * BΣA").1
      = .error (.unexpectedCharacter 'B' 4)
    ∧ (Calculator.respond { greetings := ["ς"], strict := true } "2 * BΣA").2
      = (Calculator.respond { greetings := ["ς"], strict := true } "2 * bΣa").2
    ∧ ∃ d, (Calculator.respond { greetings := ["ς"], strict := true } "2 * bΣa").1
        = .error (.unexpectedCharacter d 4)
      ∧ 'B'.toLower = d.toLower
  := by
  have hletters : "2 * BΣA".toLower = "2 * bΣa".toLower := by
    apply String.toList_injective
    rw [String.toLower, String.toLower, String.toList_map, String.toList_map]
    decide +kernel
  have hrefused : (Calculator.respond { greetings := ["ς"], strict := true } "2 * BΣA").1
      = .error (.unexpectedCharacter 'B' 4) := by
    decide +kernel
  have hrespond := respond_of_equal_letters { greetings := ["ς"], strict := true } hletters
  rw [hrefused] at hrespond
  refine ⟨hletters, hrefused, hrespond.1, ?_⟩
  obtain hsame | ⟨-, c, d, offset, heq, hother, hletter⟩ := hrespond.2
  · exact ⟨'B', hsame.symm, rfl⟩
  · obtain ⟨rfl, rfl⟩ := Fault.unexpectedCharacter.inj (Reply.error.inj heq)
    exact ⟨d, hother, hletter⟩

end Calculator

end DeskCalculator
