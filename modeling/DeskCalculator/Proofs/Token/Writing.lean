import DeskCalculator.Proofs.Grammar
import DeskCalculator.Proofs.Token.Steps
import Mathlib.Data.List.Chain

/-!
# Written terminals

How the terminal symbols of the grammar are written.  A literal is a run of digits, and
possibly a point and a further run of digits; the other terminals have one character each.
A text writes a list of terminals if it consists of their texts in order, with gaps before,
between and after them.

Both readings take the terminals back from such a text, provided that no two literals
follow one another: the strict reading if the gaps are white space, the lenient one if they
have no character of a token (`scanChars_of_writes`, `readTokens_of_writes`).
-/

namespace DeskCalculator.Grammar

open Token

/-- A decimal literal. -/
structure Literal where
  /-- The digits before the point. -/
  whole : List Char
  /-- The digits after the point, if there is a point. -/
  fraction : Option (List Char)
  whole_ne_nil : whole ≠ []
  isDigit_of_mem_whole : ∀ c ∈ whole, c.isDigit
  isDigit_of_mem_fraction : ∀ digits ∈ fraction, ∀ c ∈ digits, c.isDigit

namespace Literal

/-- The characters of a literal. -/
def text (literal : Literal) : List Char :=
  match literal.fraction with
  | none => literal.whole
  | some digits => literal.whole ++ '.' :: digits

/-- The value of a literal. -/
def toFloat (literal : Literal) : Float :=
  (Decimal.ofDigits literal.whole (literal.fraction.getD [])).toFloat

theorem text_ne_nil (literal : Literal) :
  literal.text ≠ []
  := by
  rw [text]
  split
  · apply literal.whole_ne_nil
  · apply List.append_ne_nil_of_left_ne_nil literal.whole_ne_nil

/-- The characters of a literal are digits and a point. -/
theorem isDigit_or_eq_point_of_mem_text (literal : Literal) {c : Char} (hc : c ∈ literal.text) :
  c.isDigit ∨ c = '.'
  := by
  rw [text] at hc
  split at hc
  · left
    apply literal.isDigit_of_mem_whole c hc
  · next digits hdigits =>
    obtain hwhole | hfraction := List.mem_append.mp hc
    · left
      apply literal.isDigit_of_mem_whole c hwhole
    · obtain hpoint | hfraction := List.mem_cons.mp hfraction
      · right
        apply hpoint
      · left
        apply literal.isDigit_of_mem_fraction digits hdigits c hfraction

end Literal

/-- The characters of a terminal. -/
def Terminal.text : Terminal Literal → List Char
  | literal a => a.text
  | operator op => [op.symbol]
  | opening => ['(']
  | closing => [')']

/-- A text consists of the terminals in order, with gaps of separators before, between and
after them. -/
inductive Writes (separator : Char → Bool) : List (Terminal Literal) → List Char → Prop where
  | nil {gap : List Char} (hgap : ∀ c ∈ gap, separator c) : Writes separator [] gap
  | cons {gap text : List Char} {terminal : Terminal Literal} {rest : List (Terminal Literal)}
      (hgap : ∀ c ∈ gap, separator c) (hrest : Writes separator rest text) :
      Writes separator (terminal :: rest) (gap ++ terminal.text ++ text)

/-- The characters that may separate terminals: white space for the strict reading, and any
character that is no part of a token for the lenient one. -/
def separates (strict : Bool) (c : Char) : Bool :=
  if strict then Text.isBlank c else !c.isDigit && c != '.' && (ofSymbol? c).isNone

/-- The separators of the lenient reading are the characters without a part in a token. -/
theorem separates_false_iff {c : Char} :
  separates false c ↔ ¬ c.isDigit ∧ c ≠ '.' ∧ ofSymbol? c = none
  := by
  simp [separates, and_assoc]

/-- A literal does not go on with a separator. -/
theorem not_isDigit_of_separates {c : Char} (h : separates false c) :
  ¬ c.isDigit ∧ c ≠ '.'
  := by
  obtain ⟨hdigit, hpoint, -⟩ := separates_false_iff.mp h
  exact ⟨hdigit, hpoint⟩

/-- White space separates terminals for the lenient reading, too. -/
theorem separates_of_isBlank {c : Char} (h : Text.isBlank c) :
  separates false c
  := by
  apply separates_false_iff.mpr
  refine ⟨not_isDigit_of_isBlank h, ?_, ofSymbol?_of_isBlank h⟩
  rintro rfl
  cases h

/-- Fewer separators write fewer texts. -/
theorem Writes.mono {p q : Char → Bool} (hpq : ∀ c, p c → q c)
    {terminals : List (Terminal Literal)} {text : List Char} (h : Writes p terminals text) :
  Writes q terminals text
  := by
  induction h with
  | nil hgap => apply Writes.nil (fun c hc => hpq c (hgap c hc))
  | cons hgap _ ih => apply Writes.cons (fun c hc => hpq c (hgap c hc)) ih

/-! ### Reading one terminal -/

/-- A text that does not go on with a literal before it. -/
def EndsLiteral (text : List Char) : Prop :=
  ∀ c ∈ text.head?, ¬ c.isDigit ∧ c ≠ '.'

/-- A text that does not go on with this literal before it: with a digit it always would,
and with a point it would unless the literal has one. -/
def Literal.EndsBefore (literal : Literal) (text : List Char) : Prop :=
  ∀ c ∈ text.head?, ¬ c.isDigit ∧ (literal.fraction = none → c ≠ '.')

theorem EndsLiteral.endsBefore {text : List Char} (h : EndsLiteral text) (literal : Literal) :
  literal.EndsBefore text
  := by
  intro c hc
  obtain ⟨hdigit, hpoint⟩ := h c hc
  exact ⟨hdigit, fun _ => hpoint⟩

variable {digits rest : List Char}

theorem takeWhile_isDigit_append (hdigits : ∀ c ∈ digits, c.isDigit)
    (hrest : ∀ c ∈ rest.head?, ¬ c.isDigit) :
  (digits ++ rest).takeWhile Char.isDigit = digits
  := by
  rw [List.takeWhile_append_of_pos hdigits]
  cases rest with
  | nil => simp
  | cons c rest => simp [hrest c rfl]

theorem dropWhile_isDigit_append (hdigits : ∀ c ∈ digits, c.isDigit)
    (hrest : ∀ c ∈ rest.head?, ¬ c.isDigit) :
  (digits ++ rest).dropWhile Char.isDigit = rest
  := by
  rw [List.dropWhile_append_of_pos hdigits]
  cases rest with
  | nil => rfl
  | cons c rest => simp [hrest c rfl]

/-- The digits at the start of a text, the digits behind a point after them, and what comes after
these. -/
def leadingDigits (text : List Char) : List Char × List Char × List Char :=
  match text.dropWhile Char.isDigit with
  | '.' :: rest =>
    (text.takeWhile Char.isDigit, rest.takeWhile Char.isDigit, rest.dropWhile Char.isDigit)
  | rest => (text.takeWhile Char.isDigit, [], rest)

/-- The digits at the start of a text are those of the literal written there, if the text does not
go on with it. -/
theorem leadingDigits_text_append (literal : Literal) (h : literal.EndsBefore rest) :
  leadingDigits (literal.text ++ rest) = (literal.whole, literal.fraction.getD [], rest)
  := by
  have hrest : ∀ c ∈ rest.head?, ¬ c.isDigit := fun c hc => (h c hc).1
  obtain ⟨whole, _ | fraction, hne, hwhole, hfraction⟩ := literal
  · simp only [Literal.text, leadingDigits, takeWhile_isDigit_append hwhole hrest,
      dropWhile_isDigit_append hwhole hrest]
    split
    · next after =>
      exact absurd rfl ((h '.' rfl).2 rfl)
    · rfl
  · have hpoint : ∀ c ∈ ('.' :: (fraction ++ rest)).head?, ¬ c.isDigit := by
      rintro c ⟨⟩
      decide
    have hdigits := hfraction fraction rfl
    simp only [Literal.text, leadingDigits, List.append_assoc, List.cons_append,
      takeWhile_isDigit_append hwhole hpoint, dropWhile_isDigit_append hwhole hpoint,
      takeWhile_isDigit_append hdigits hrest, dropWhile_isDigit_append hdigits hrest]
    rfl

theorem leadingDigits_of_point {text : List Char} (h : text.dropWhile Char.isDigit = '.' :: rest) :
  leadingDigits text
    = (text.takeWhile Char.isDigit, rest.takeWhile Char.isDigit, rest.dropWhile Char.isDigit)
  := by
  simp only [leadingDigits, h]

theorem leadingDigits_of_no_point {text : List Char}
    (h : ∀ rest, text.dropWhile Char.isDigit ≠ '.' :: rest) :
  leadingDigits text = (text.takeWhile Char.isDigit, [], text.dropWhile Char.isDigit)
  := by
  rw [leadingDigits]
  split
  · next rest hpoint => exact absurd hpoint (h rest)
  · rfl

theorem nextNumber_eq (text : List Char) :
  nextNumber text = (.number (Decimal.ofDigits (leadingDigits text).1
    (leadingDigits text).2.1).toFloat, (leadingDigits text).2.2)
  := by
  rw [nextNumber]
  split
  · next rest hpoint => rw [leadingDigits_of_point hpoint]
  · next hpoint => rw [leadingDigits_of_no_point hpoint]

/-- The number at the start of a text is the literal written there, if the text does not go
on with it. -/
theorem nextNumber_text_append (literal : Literal) (h : literal.EndsBefore rest) :
  nextNumber (literal.text ++ rest) = (.number literal.toFloat, rest)
  := by
  rw [nextNumber_eq, leadingDigits_text_append literal h]
  rfl

/-- The token at the start of a text is that of the terminal written there, if the text
does not go on with a literal. -/
theorem next?_text_append (terminal : Terminal Literal)
    (h : ∀ a, terminal = .literal a → a.EndsBefore rest) :
  next? (terminal.text ++ rest) = some (terminal.token Literal.toFloat, rest)
  := by
  cases terminal with
  | literal a =>
    obtain ⟨c, after, hwhole⟩ := List.exists_cons_of_ne_nil a.whole_ne_nil
    obtain ⟨after', htext⟩ : ∃ after', a.text = c :: after' := by
      rw [Literal.text, hwhole]
      split
      · use after
      · next digits _ =>
        use after ++ '.' :: digits
        rfl
    have hdigit : c.isDigit := by
      apply a.isDigit_of_mem_whole
      simp [hwhole]
    rw [Terminal.text, htext, List.cons_append, next?, if_pos hdigit, ← List.cons_append,
      ← htext, nextNumber_text_append a (h a rfl)]
    rfl
  | operator op => cases op <;> rfl
  | opening => rfl
  | closing => rfl

/-- A token written with one character is that of a terminal other than a literal. -/
theorem exists_terminal_of_ofSymbol? {c : Char} {token : Token} (h : ofSymbol? c = some token) :
  ∃ terminal : Terminal Literal, terminal.text = [c]
    ∧ token = terminal.token Literal.toFloat ∧ ∀ a, terminal ≠ .literal a
  := by
  unfold ofSymbol? at h
  split at h
  · cases h
    exact ⟨.opening, rfl, rfl, by simp⟩
  · cases h
    exact ⟨.closing, rfl, rfl, by simp⟩
  · obtain ⟨op, hop, rfl⟩ := Option.map_eq_some_iff.mp h
    use .operator op
    rw [← Operator.symbol_of_ofSymbol? hop]
    exact ⟨rfl, rfl, by simp⟩

/-- A text that begins with a digit begins with a literal that ends before the rest. -/
theorem exists_literal_of_isDigit {c : Char} (h : c.isDigit) (after : List Char) :
  ∃ (literal : Literal) (rest : List Char),
    c :: after = literal.text ++ rest ∧ literal.EndsBefore rest
  := by
  have htext := List.takeWhile_append_dropWhile (p := Char.isDigit) (l := c :: after)
  have hwhole : ∀ d ∈ (c :: after).takeWhile Char.isDigit, d.isDigit := fun d hd =>
    List.mem_takeWhile_imp hd
  have hne : (c :: after).takeWhile Char.isDigit ≠ [] := by
    rw [List.takeWhile_cons_of_pos h]
    apply List.cons_ne_nil
  have hhead := List.head?_dropWhile_not Char.isDigit (c :: after)
  generalize (c :: after).takeWhile Char.isDigit = whole at htext hwhole hne
  generalize (c :: after).dropWhile Char.isDigit = rest at htext hhead
  by_cases hpoint : ∃ tail, rest = '.' :: tail
  · obtain ⟨tail, rfl⟩ := hpoint
    have hfraction : ∀ digits ∈ some (tail.takeWhile Char.isDigit), ∀ d ∈ digits, d.isDigit := by
      rintro _ ⟨⟩ d hd
      apply List.mem_takeWhile_imp hd
    use ⟨whole, some (tail.takeWhile Char.isDigit), hne, hwhole, hfraction⟩,
      tail.dropWhile Char.isDigit
    constructor
    · rw [Literal.text, List.append_assoc, List.cons_append, List.takeWhile_append_dropWhile,
        htext]
    · intro d hd
      have htail := List.head?_dropWhile_not Char.isDigit tail
      rw [hd] at htail
      exact ⟨by simp [htail], fun hnone => nomatch hnone⟩
  · use ⟨whole, none, hne, hwhole, by simp⟩, rest
    constructor
    · rw [Literal.text, htext]
    · intro d hd
      rw [hd] at hhead
      refine ⟨by simp [hhead], ?_⟩
      rintro - rfl
      apply hpoint
      obtain ⟨tail, rfl⟩ := List.head?_eq_some_iff.mp hd
      use tail

/-- A token starts a text exactly if the text begins with the terminal of that token, and
does not go on with it if it is a literal. -/
theorem next?_eq_some_iff {text : List Char} {token : Token} :
  next? text = some (token, rest)
    ↔ ∃ terminal : Terminal Literal, text = terminal.text ++ rest
      ∧ token = terminal.token Literal.toFloat
      ∧ ∀ a, terminal = .literal a → a.EndsBefore rest
  := by
  constructor
  · intro h
    cases text with
    | nil => cases h
    | cons c after =>
      by_cases hdigit : c.isDigit
      · obtain ⟨a, tail, htext, hends⟩ := exists_literal_of_isDigit hdigit after
        have hliteral : ∀ b, Terminal.literal a = .literal b → b.EndsBefore tail := by
          rintro _ ⟨⟩
          apply hends
        have hnext := next?_text_append (.literal a) hliteral
        rw [Terminal.text, ← htext, h] at hnext
        cases hnext
        exact ⟨.literal a, htext, rfl, hliteral⟩
      · rw [next?, if_neg hdigit] at h
        obtain ⟨symbol, hsymbol, heq⟩ := Option.map_eq_some_iff.mp h
        cases heq
        obtain ⟨terminal, htext, htoken, hliteral⟩ := exists_terminal_of_ofSymbol? hsymbol
        use terminal
        refine ⟨?_, htoken, ?_⟩
        · rw [htext]
          rfl
        · intro a ha
          exact absurd ha (hliteral a)
  · rintro ⟨terminal, rfl, rfl, hends⟩
    apply next?_text_append terminal hends

/-- A separator starts no token. -/
theorem next?_of_separates {c : Char} (h : separates false c) (after : List Char) :
  next? (c :: after) = none
  := by
  obtain ⟨hdigit, -, hsymbol⟩ := separates_false_iff.mp h
  exact next?_eq_none_iff.mpr ⟨hdigit, hsymbol⟩

/-! ### Reading all terminals -/

/-- Two terminals that may follow one another without a gap: they are not both literals. -/
def Apart (before after : Terminal Literal) : Prop :=
  ∀ a b, before = .literal a → after ≠ .literal b

variable {terminals : List (Terminal Literal)} {text : List Char}

/-- Behind a literal, a text that writes terminals does not go on with it. -/
theorem endsLiteral_of_writes (h : Writes (separates false) terminals text)
    {a : Literal} (hapart : ∀ terminal ∈ terminals.head?, Apart (.literal a) terminal) :
  EndsLiteral text
  := by
  cases h with
  | @nil gap hseparates =>
    intro c hc
    apply not_isDigit_of_separates (hseparates c (List.mem_of_mem_head? hc))
  | @cons gap text terminal rest hseparates hrest =>
    cases gap with
    | cons c gap =>
      rintro _ ⟨⟩
      apply not_isDigit_of_separates (hseparates c List.mem_cons_self)
    | nil =>
      cases terminal with
      | literal b => exact absurd rfl (hapart _ rfl a b rfl)
      | operator op =>
        rintro _ ⟨⟩
        cases op <;> decide
      | opening =>
        rintro _ ⟨⟩
        decide
      | closing =>
        rintro _ ⟨⟩
        decide

/-- The lenient reading passes over a gap. -/
theorem scanChars_gap_append {gap : List Char} (hgap : ∀ c ∈ gap, separates false c)
    (text : List Char) :
  scanChars (gap ++ text) = scanChars text
  := by
  induction gap with
  | nil => rfl
  | cons c gap ih =>
    obtain ⟨hc, hgap⟩ := List.forall_mem_cons.mp hgap
    rw [List.cons_append, scanChars_of_next?_eq_none (next?_of_separates hc _), ih hgap]

/-- The strict reading passes over white space. -/
theorem readTokens_gap_append {gap : List Char} (hgap : ∀ c ∈ gap, Text.isBlank c)
    (text : List Char) :
  readTokens (gap ++ text) = readTokens text
  := by
  induction gap with
  | nil => rfl
  | cons c gap ih =>
    obtain ⟨hc, hgap⟩ := List.forall_mem_cons.mp hgap
    rw [List.cons_append, readTokens_of_isBlank hc, ih hgap]

/-- The lenient reading of a text that writes terminals. -/
theorem scanChars_of_writes (h : Writes (separates false) terminals text)
    (hapart : terminals.IsChain Apart) :
  scanChars text = terminals.map (Terminal.token Literal.toFloat)
  := by
  induction h with
  | @nil gap hgap =>
    have hscan := scanChars_gap_append hgap []
    rwa [List.append_nil, scanChars_nil] at hscan
  | @cons gap text terminal rest hgap hrest ih =>
    obtain ⟨hhead, htail⟩ := List.isChain_cons.mp hapart
    have hnext : next? (terminal.text ++ text) = _ := next?_text_append terminal (by
      rintro a rfl
      apply (endsLiteral_of_writes hrest hhead).endsBefore)
    rw [List.append_assoc, scanChars_gap_append hgap, scanChars_of_next?_eq_some hnext,
      ih htail, List.map_cons]

/-- The strict reading of a text that writes terminals between white space. -/
theorem readTokens_of_writes (h : Writes (separates true) terminals text)
    (hapart : terminals.IsChain Apart) :
  readTokens text = (terminals.map (Terminal.token Literal.toFloat), [])
  := by
  induction h with
  | @nil gap hgap =>
    have hread := readTokens_gap_append hgap []
    rwa [List.append_nil, readTokens_nil] at hread
  | @cons gap text terminal rest hgap hrest ih =>
    obtain ⟨hhead, htail⟩ := List.isChain_cons.mp hapart
    have hnext : next? (terminal.text ++ text) = _ := next?_text_append terminal (by
      rintro a rfl
      have hlenient := hrest.mono fun c hc => separates_of_isBlank hc
      apply (endsLiteral_of_writes hlenient hhead).endsBefore)
    rw [List.append_assoc, readTokens_gap_append hgap, readTokens_of_next?_eq_some hnext,
      ih htail, List.map_cons]

/-! ### The sentences of derivations -/

namespace Derivation

/-- No two literals follow one another in the sentence of a derivation. -/
theorem isChain_sentence {category : Category} (d : Derivation Literal category) :
  d.sentence.IsChain Apart
  := by
  have hoperation : ∀ {left right : List (Terminal Literal)} (op : Operator),
      left.IsChain Apart → right.IsChain Apart →
      (left ++ .operator op :: right).IsChain Apart := by
    intro left right op hleft hright
    apply hleft.append (hright.cons _)
    · rintro _ _ _ ⟨⟩ _ _ _ ⟨⟩
    · rintro _ _ _ _ ⟨⟩
  induction d with
  | literal a => apply List.isChain_singleton
  | group inner ih =>
    apply (ih.append (List.isChain_singleton _) _).cons
    · rintro _ _ _ _ ⟨⟩
    · rintro _ _ _ ⟨⟩ _ _ _ ⟨⟩
  | ofFactor d ih => apply ih
  | multiplicative left op h right ihleft ihright => apply hoperation op ihleft ihright
  | ofProduct d ih => apply ih
  | additive left op h right ihleft ihright => apply hoperation op ihleft ihright

end Derivation

end DeskCalculator.Grammar
