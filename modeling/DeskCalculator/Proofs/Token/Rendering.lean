import DeskCalculator.Proofs.Decimal.Reading
import DeskCalculator.Proofs.Token.Concatenation
import DeskCalculator.Proofs.Token.Content
import DeskCalculator.Proofs.Token.Factorisation

/-!
# Rendered tokens

A text renders tokens if it consists of their texts in order, with gaps of separators before,
between and after them; only between two numbers a gap must not be empty.

If the numbers are finite and have no sign, the tokens are read back from such a text: the
text of such a number is a literal with its value (`fragments_text`), and there is a boundary
behind the text of each token (`Spells.isBoundary`).  The strict reading takes the tokens back
if the gaps are white space, and the lenient one if they have no character of a token
(`scan_of_renders`).
-/

namespace DeskCalculator.Token

open Grammar Binary64

variable {separator : Char → Bool} {token : Token} {tokens rest : List Token}
  {gap text : List Char}

/-- The texts of tokens in order, each with a gap of separators behind it, which is not empty
between two numbers. -/
inductive Spells (separator : Char → Bool) : List Token → List Char → Prop where
  | nil : Spells separator [] []
  | cons {token : Token} {rest : List Token} {gap text : List Char}
      (hgap : ∀ c ∈ gap, separator c)
      (hnumbers : ∀ x y, token = .number x → rest.head? = some (.number y) → gap ≠ [])
      (hrest : Spells separator rest text) :
      Spells separator (token :: rest) (token.text.toList ++ gap ++ text)

/-- A text consists of the texts of tokens in order, with gaps of separators before, between
and after them, which are not empty between two numbers. -/
def Renders (separator : Char → Bool) (tokens : List Token) (text : List Char) : Prop :=
  ∃ gap body, text = gap ++ body ∧ (∀ c ∈ gap, separator c) ∧ Spells separator tokens body

/-! ### The text of one token -/

/-- The text of a token other than a number is the character that writes it. -/
theorem exists_symbol_of_ne_number (h : ∀ x, token ≠ .number x) :
  ∃ c, token.text.toList = [c] ∧ ofSymbol? c = some token
  := by
  cases token with
  | number x => exact absurd rfl (h x)
  | operator op =>
    use op.symbol
    constructor
    · apply String.toList_singleton
    · cases op <;> rfl
  | opening => exact ⟨'(', rfl, rfl⟩
  | closing => exact ⟨')', rfl, rfl⟩

/-- Behind a token other than a number there is a boundary. -/
theorem isBoundary_text (h : ∀ x, token ≠ .number x) (text : List Char) :
  IsBoundary token.text.toList text
  := by
  obtain ⟨c, htext, hsymbol⟩ := exists_symbol_of_ne_number h
  left
  rw [htext]
  rintro _ ⟨⟩
  apply not_isDigit_of_ofSymbol? hsymbol

/-- A literal does not go on with a token other than a number. -/
theorem endsLiteral_text_append (h : ∀ x, token ≠ .number x) (text : List Char) :
  EndsLiteral (token.text.toList ++ text)
  := by
  obtain ⟨c, htext, hsymbol⟩ := exists_symbol_of_ne_number h
  rw [htext]
  rintro _ ⟨⟩
  apply not_isDigit_of_ofSymbol? hsymbol

/-- The text of a token is its only fragment. -/
theorem fragments_text (h : ∀ x ∈ numbers [token], IsFiniteUnsigned x) :
  fragments token.text.toList = [.lexeme token.text.toList token]
  := by
  have hnext : next? (token.text.toList ++ []) = some (token, []) := by
    by_cases hnumber : ∃ x, token = .number x
    · obtain ⟨x, rfl⟩ := hnumber
      obtain ⟨a, htext, hvalue⟩ := Layout.exists_literal_text_plain (h x List.mem_cons_self)
      rw [Token.text, htext, ← hvalue]
      apply next?_text_append (.literal a)
      rintro _ _ _ ⟨⟩
    · push Not at hnumber
      obtain ⟨c, htext, hsymbol⟩ := exists_symbol_of_ne_number hnumber
      rw [htext]
      apply next?_of_ofSymbol? hsymbol
  have hfragments := fragments_of_next?_eq_some hnext
  rwa [List.append_nil, fragments_nil] at hfragments

theorem scanChars_text (h : ∀ x ∈ numbers [token], IsFiniteUnsigned x) :
  scanChars token.text.toList = [token]
  := by
  rw [← filterMap_token?_fragments, fragments_text h]
  rfl

theorem skipped_text (h : ∀ x ∈ numbers [token], IsFiniteUnsigned x) :
  skipped token.text.toList = []
  := by
  rw [skipped, fragments_text h]
  rfl

/-! ### The texts of all tokens -/

/-- The lenient reading passes over every character of a gap. -/
theorem skipped_gap_append (hgap : ∀ c ∈ gap, separates false c) (text : List Char) :
  skipped (gap ++ text) = gap ++ skipped text
  := by
  induction gap with
  | nil => rfl
  | cons c gap ih =>
    obtain ⟨hc, hgap⟩ := List.forall_mem_cons.mp hgap
    rw [List.cons_append, skipped, fragments_of_next?_eq_none (next?_of_separates hc _),
      List.cons_append, ← ih hgap]
    rfl

/-- Behind the text of a token there is a boundary. -/
theorem Spells.isBoundary (h : Spells separator rest text) (hgap : ∀ c ∈ gap, separates false c)
    (hnumbers : ∀ x y, token = .number x → rest.head? = some (.number y) → gap ≠ []) :
  IsBoundary token.text.toList (gap ++ text)
  := by
  by_cases hnumber : ∃ x, token = .number x
  · right
    obtain ⟨x, hx⟩ := hnumber
    cases gap with
    | cons c gap =>
      rintro _ ⟨⟩
      apply not_isDigit_of_separates (hgap c List.mem_cons_self)
    | nil =>
      -- without a gap the next token is no number
      cases h with
      | nil =>
        rintro _ ⟨⟩
      | @cons next others gap text _ _ _ =>
        rw [List.nil_append, List.append_assoc]
        apply endsLiteral_text_append
        rintro y rfl
        apply hnumbers x y hx rfl rfl
  · push Not at hnumber
    apply isBoundary_text hnumber

/-- The lenient reading of the texts of tokens has the tokens, and passes over separators
only. -/
theorem Spells.reading (h : Spells separator tokens text)
    (hseparator : ∀ c, separator c → separates false c)
    (hfinite : ∀ x ∈ numbers tokens, IsFiniteUnsigned x) :
  scanChars text = tokens ∧ ∀ c ∈ skipped text, separator c
  := by
  induction h with
  | nil =>
    rw [scanChars_nil, skipped, fragments_nil]
    exact ⟨rfl, List.forall_mem_nil _⟩
  | @cons token rest gap text hgap hnumbers hrest ih =>
    rw [← List.singleton_append, numbers_append] at hfinite
    obtain ⟨htoken, hfinite⟩ := List.forall_mem_append.mp hfinite
    obtain ⟨hscan, hskipped⟩ := ih hfinite
    have hlenient : ∀ c ∈ gap, separates false c := fun c hc => hseparator c (hgap c hc)
    have hboundary := hrest.isBoundary hlenient hnumbers
    rw [List.append_assoc]
    constructor
    · rw [scanChars_append hboundary, scanChars_text htoken, scanChars_gap_append hlenient, hscan,
        List.singleton_append]
    · rw [skipped_append hboundary, skipped_text htoken, skipped_gap_append hlenient,
        List.nil_append]
      apply List.forall_mem_append.mpr ⟨hgap, hskipped⟩

/-- The lenient reading of a text that renders tokens has the tokens, and passes over
separators only. -/
theorem Renders.reading (h : Renders separator tokens text)
    (hseparator : ∀ c, separator c → separates false c)
    (hfinite : ∀ x ∈ numbers tokens, IsFiniteUnsigned x) :
  scanChars text = tokens ∧ ∀ c ∈ skipped text, separator c
  := by
  obtain ⟨gap, body, rfl, hgap, hbody⟩ := h
  obtain ⟨hscan, hskipped⟩ := hbody.reading hseparator hfinite
  have hlenient : ∀ c ∈ gap, separates false c := fun c hc => hseparator c (hgap c hc)
  constructor
  · rw [scanChars_gap_append hlenient, hscan]
  · rw [skipped_gap_append hlenient]
    apply List.forall_mem_append.mpr ⟨hgap, hskipped⟩

/-- The text of a list of tokens renders them with single spaces between them. -/
theorem renders_listText (tokens : List Token) :
  Renders (separates true) tokens (listText tokens).toList
  := by
  have hspells : Spells (separates true) tokens
      ([' '].intercalate (tokens.map fun token => token.text.toList)) := by
    induction tokens with
    | nil => apply Spells.nil
    | cons token rest ih =>
      cases rest with
      | nil =>
        have hlast : Spells (separates true) [token] (token.text.toList ++ [] ++ []) := by
          apply Spells.cons (List.forall_mem_nil _) _ .nil
          rintro _ _ _ ⟨⟩
        rw [List.append_nil, List.append_nil] at hlast
        rw [List.map_singleton, List.intercalate_singleton]
        apply hlast
      | cons next others =>
        have hne : (next :: others).map (fun token => token.text.toList) ≠ [] := by simp
        rw [List.map_cons, List.intercalate_cons_of_ne_nil hne]
        apply Spells.cons (List.forall_mem_singleton.mpr rfl) _ ih
        intro _ _ _ _
        apply List.cons_ne_nil
  refine ⟨[], _, ?_, List.forall_mem_nil _, hspells⟩
  simp [listText, String.toList_intercalate, Function.comp_def]

/-- Tokens whose numbers are finite and have no sign are read back from a text that renders
them: by the lenient reading if the gaps have no character of a token, and by both readings if
the gaps are white space.  In particular both read them back from their text with single
spaces. -/
theorem scan_of_renders {tokens : List Token}
    (hfinite : ∀ x ∈ numbers tokens, IsFiniteUnsigned x) :
  (∀ text : String, Renders (separates false) tokens text.toList → scan text = tokens)
    ∧ (∀ text : String, Renders (separates true) tokens text.toList →
      scanStrict text = .ok tokens ∧ scan text = tokens)
    ∧ scanStrict (listText tokens) = .ok tokens
    ∧ scan (listText tokens) = tokens
  := by
  have hblank : ∀ text : String, Renders (separates true) tokens text.toList →
      scanStrict text = .ok tokens ∧ scan text = tokens := by
    intro text h
    obtain ⟨hscan, hskipped⟩ := h.reading (fun c hc => separates_of_isBlank hc) hfinite
    constructor
    · rw [scanStrict, scanCharsStrict_of_isBlank hskipped, hscan]
    · apply hscan
  refine ⟨?_, hblank, hblank _ (renders_listText tokens)⟩
  intro text h
  apply (h.reading (fun _ hc => hc) hfinite).1

/-- Two numbers with a raised digit between them, which is a separator, and an operator. -/
theorem scan_of_renders_around_raised_digit :
  (∀ x ∈ numbers [.number 0.1, .number 2, .operator .subtract], IsFiniteUnsigned x)
    ∧ Renders (separates false) [.number 0.1, .number 2, .operator .subtract] "0.1¹2-x".toList
    ∧ scan "0.1¹2-x" = [.number 0.1, .number 2, .operator .subtract]
    ∧ scanStrict (listText [.number 0.1, .number 2, .operator .subtract])
      = .ok [.number 0.1, .number 2, .operator .subtract]
  := by
  have hfinite : ∀ x ∈ numbers [.number 0.1, .number 2, .operator .subtract],
      IsFiniteUnsigned x := by
    have htenth : IsFiniteUnsigned 0.1 := ⟨7205759403792794, 1018, by decide +kernel⟩
    have htwo : IsFiniteUnsigned 2 := ⟨2 ^ 52, 1023, by decide +kernel⟩
    exact List.forall_mem_cons.mpr ⟨htenth, List.forall_mem_singleton.mpr htwo⟩
  have hoperator : Spells (separates false) [.operator .subtract] (['-'] ++ ['x'] ++ []) := by
    apply Spells.cons (List.forall_mem_singleton.mpr rfl) _ .nil
    rintro _ _ ⟨⟩
  have hnumber : Spells (separates false) [.number 2, .operator .subtract]
      ((Token.number 2).text.toList ++ [] ++ (['-'] ++ ['x'] ++ [])) := by
    apply Spells.cons (List.forall_mem_nil _) _ hoperator
    rintro _ _ _ ⟨⟩
  have hspells : Spells (separates false) [.number 0.1, .number 2, .operator .subtract]
      ((Token.number 0.1).text.toList ++ ['¹']
        ++ ((Token.number 2).text.toList ++ [] ++ (['-'] ++ ['x'] ++ []))) := by
    apply Spells.cons (List.forall_mem_singleton.mpr rfl) _ hnumber
    intro _ _ _ _
    apply List.cons_ne_nil
  have htenth : (Token.number 0.1).text = "0.1" := by decide +kernel
  have htwo : (Token.number 2).text = "2" := by decide +kernel
  rw [htenth, htwo] at hspells
  have hrenders : Renders (separates false) [.number 0.1, .number 2, .operator .subtract]
      "0.1¹2-x".toList := ⟨[], _, rfl, List.forall_mem_nil _, hspells⟩
  obtain ⟨hlenient, -, hlist, -⟩ := scan_of_renders hfinite
  exact ⟨hfinite, hrenders, hlenient _ hrenders, hlist⟩

end DeskCalculator.Token
