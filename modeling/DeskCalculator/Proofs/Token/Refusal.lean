import DeskCalculator.Expression
import DeskCalculator.Proofs.Text.Bytes
import DeskCalculator.Proofs.Token.Fragments

/-!
# Refusals

The strict reading agrees with the lenient one up to the first character that the lenient
reading passes over and that is not white space.  Without such a character the tokens are
the same; otherwise the strict reading refuses it at its own place in the text, and the
refusal depends on nothing behind it (`scanStrict_agrees`).
-/

namespace DeskCalculator.Token

/-- Whether the strict reading goes on after a fragment: after a token, or white space. -/
def Fragment.isAccepted : Fragment → Bool
  | lexeme _ _ => true
  | skipped c => Text.isBlank c

/-- The strict reading goes through the fragments up to the first that is not accepted. -/
theorem readTokens_eq (text : List Char) :
  readTokens text
    = (((fragments text).takeWhile Fragment.isAccepted).filterMap Fragment.token?,
        ((fragments text).dropWhile Fragment.isAccepted).flatMap Fragment.text)
  := by
  induction text using reading_induction with
  | nil => simp
  | lexeme lexeme rest token hnext ih =>
    rw [readTokens_of_next?_eq_some hnext, fragments_of_next?_eq_some hnext, ih]
    rfl
  | skipped c after hnext ih =>
    rw [fragments_of_next?_eq_none hnext]
    by_cases hblank : Text.isBlank c
    · have haccepted : (Fragment.skipped c).isAccepted := hblank
      rw [readTokens_of_isBlank hblank, ih, List.takeWhile_cons_of_pos haccepted,
        List.dropWhile_cons_of_pos haccepted]
      rfl
    · have hrefused : ¬ (Fragment.skipped c).isAccepted := hblank
      rw [readTokens_of_next?_eq_none hblank hnext, List.takeWhile_cons_of_neg hrefused,
        List.dropWhile_cons_of_neg hrefused, List.flatMap_cons, flatMap_text_fragments]
      rfl

/-- Fragments are all accepted exactly if they pass over white space only. -/
theorem forall_isAccepted_iff {parts : List Fragment} :
  (∀ part ∈ parts, part.isAccepted)
    ↔ ∀ c ∈ parts.filterMap Fragment.skipped?, Text.isBlank c
  := by
  simp only [List.mem_filterMap, forall_exists_index, and_imp]
  constructor
  · intro h c part hpart hc
    cases part with
    | lexeme => cases hc
    | skipped d =>
      cases hc
      apply h _ hpart
  · intro h part hpart
    cases part with
    | lexeme => rfl
    | skipped d => apply h d _ hpart rfl

/-! ### Texts without a refusal -/

/-- If the lenient reading passes over white space only, the strict reading gives the same
tokens. -/
theorem scanCharsStrict_of_isBlank {text : List Char}
    (h : ∀ c ∈ skipped text, Text.isBlank c) :
  scanCharsStrict text = .ok (scanChars text)
  := by
  have haccepted := forall_isAccepted_iff.mpr h
  rw [scanCharsStrict, readTokens_eq, List.takeWhile_eq_self_iff.mpr haccepted,
    List.dropWhile_eq_nil_iff.mpr haccepted, filterMap_token?_fragments]
  rfl

/-! ### Refused characters -/

/-- The character `c` is the first that the lenient reading passes over and that is not
white space, and `before` is the text before it. -/
def FirstRefused (text before : List Char) (c : Char) : Prop :=
  ∃ front back, fragments text = front ++ .skipped c :: back
    ∧ front.flatMap Fragment.text = before
    ∧ (∀ d ∈ front.filterMap Fragment.skipped?, Text.isBlank d)
    ∧ ¬ Text.isBlank c

variable {text before : List Char} {c : Char}

/-- A text in which the lenient reading passes over more than white space has a first refused
character. -/
theorem exists_firstRefused (h : ∃ c ∈ skipped text, ¬ Text.isBlank c) :
  ∃ before c, FirstRefused text before c
  := by
  have hsplit := List.takeWhile_append_dropWhile (p := Fragment.isAccepted) (l := fragments text)
  have hfront : ∀ part ∈ (fragments text).takeWhile Fragment.isAccepted, part.isAccepted :=
    fun _ hpart => List.mem_takeWhile_imp hpart
  have hhead := List.head?_dropWhile_not Fragment.isAccepted (fragments text)
  cases hrest : (fragments text).dropWhile Fragment.isAccepted with
  | nil =>
    obtain ⟨c, hc, hblank⟩ := h
    have haccepted := List.dropWhile_eq_nil_iff.mp hrest
    exact absurd (forall_isAccepted_iff.mp haccepted c hc) hblank
  | cons part back =>
    rw [hrest] at hsplit hhead
    cases part with
    | lexeme => cases hhead
    | skipped c =>
      refine ⟨_, c, _, back, hsplit.symm, rfl, forall_isAccepted_iff.mp hfront, ?_⟩
      intro hblank
      exact Bool.false_ne_true (hhead.symm.trans hblank)

namespace FirstRefused

theorem not_isBlank (h : FirstRefused text before c) :
  ¬ Text.isBlank c
  := by
  obtain ⟨_, _, -, -, -, hblank⟩ := h
  apply hblank

theorem mem_skipped (h : FirstRefused text before c) :
  c ∈ skipped text
  := by
  obtain ⟨front, back, hfragments, -⟩ := h
  rw [skipped, hfragments, List.filterMap_append]
  apply List.mem_append_right _ List.mem_cons_self

/-- A refused character stands in the text. -/
theorem exists_eq_append (h : FirstRefused text before c) :
  ∃ after, text = before ++ c :: after
  := by
  obtain ⟨front, back, hfragments, rfl, -⟩ := h
  use back.flatMap Fragment.text
  rw [← flatMap_text_fragments text, hfragments, List.flatMap_append]
  rfl

/-- In every text that begins in this way the same character is refused. -/
theorem append (h : FirstRefused text before c) (after : List Char) :
  FirstRefused (before ++ c :: after) before c
  := by
  have hnext : next? (c :: after) = none := next?_eq_none_iff.mpr (of_mem_skipped h.mem_skipped)
  obtain ⟨front, back, hfragments, rfl, hfront, hblank⟩ := h
  refine ⟨front, fragments after, ?_, rfl, hfront, hblank⟩
  rw [fragments_append_of_head? hfragments, fragments_of_next?_eq_none hnext]
  rintro _ ⟨⟩
  rfl

/-- The text before a refused character has no refused character. -/
theorem isBlank_of_mem_skipped_before (h : FirstRefused text before c) :
  ∀ d ∈ skipped before, Text.isBlank d
  := by
  obtain ⟨front, back, hfragments, rfl, hfront, -⟩ := h
  have hbefore : fragments (front.flatMap Fragment.text ++ []) = front ++ fragments [] :=
    fragments_append_of_head? hfragments (by simp)
  rw [List.append_nil, fragments_nil, List.append_nil] at hbefore
  rw [skipped, hbefore]
  apply hfront

/-- The strict reading names the first refused character and the number of bytes before
it. -/
theorem scanCharsStrict_eq (h : FirstRefused text before c) :
  scanCharsStrict text = .error (.unexpectedCharacter c (byteLength before))
  := by
  obtain ⟨after, htext⟩ := h.exists_eq_append
  obtain ⟨front, back, hfragments, rfl, hfront, hblank⟩ := h
  have hrefused : ¬ (Fragment.skipped c).isAccepted := hblank
  have hrest : (fragments text).dropWhile Fragment.isAccepted = .skipped c :: back := by
    rw [hfragments, List.dropWhile_append_of_pos (forall_isAccepted_iff.mpr hfront),
      List.dropWhile_cons_of_neg hrefused]
  have hafter : back.flatMap Fragment.text = after := by
    rw [← flatMap_text_fragments text, hfragments, List.flatMap_append] at htext
    exact (List.cons.inj (List.append_cancel_left htext)).2
  have hoffset : byteLength text - byteLength (c :: after)
      = byteLength (front.flatMap Fragment.text) := by
    rw [htext, byteLength_append, Nat.add_sub_cancel]
  rw [scanCharsStrict, readTokens_eq, hrest, List.flatMap_cons, hafter, ← hoffset]
  rfl

/-- A text with a refused character is made of the text before it, the character and a
rest. -/
theorem exists_eq_append_singleton {text before : String}
    (h : FirstRefused text.toList before.toList c) :
  ∃ after, text = before ++ String.singleton c ++ after
  := by
  obtain ⟨after, hafter⟩ := h.exists_eq_append
  use String.ofList after
  apply String.toList_injective
  simp [hafter]

/-- Texts with the same bytes up to and including a refused character are refused in the same
way. -/
theorem scanStrict_of_extract_eq {text before other : String}
    (h : FirstRefused text.toList before.toList c)
    (hother : other.toByteArray.extract 0 (before.utf8ByteSize + c.utf8Size)
      = text.toByteArray.extract 0 (before.utf8ByteSize + c.utf8Size)) :
  scanStrict other = .error (.unexpectedCharacter c before.utf8ByteSize)
  := by
  obtain ⟨after, rfl⟩ := h.exists_eq_append_singleton
  rw [← String.utf8ByteSize_singleton, ← String.utf8ByteSize_append,
    Text.extract_toByteArray_append] at hother
  obtain ⟨rest, rfl⟩ := Text.exists_eq_append_of_extract hother
  have hchars : (before ++ String.singleton c ++ rest).toList
      = before.toList ++ c :: rest.toList := by simp
  rw [scanStrict, hchars, (h.append rest.toList).scanCharsStrict_eq, byteLength_toList]

end FirstRefused

/-- A fault of the strict reading names the first refused character and the number of bytes
before it. -/
theorem exists_firstRefused_of_scanCharsStrict {fault : Fault}
    (h : scanCharsStrict text = .error fault) :
  ∃ before c, FirstRefused text before c ∧ fault = .unexpectedCharacter c (byteLength before)
  := by
  by_cases hblank : ∀ c ∈ skipped text, Text.isBlank c
  · rw [scanCharsStrict_of_isBlank hblank] at h
    cases h
  · push Not at hblank
    obtain ⟨before, c, hfirst⟩ := exists_firstRefused hblank
    rw [hfirst.scanCharsStrict_eq] at h
    cases h
    exact ⟨before, c, hfirst, rfl⟩

/-! ### Agreement of the two readings -/

/-- The strict reading accepts a text exactly if the lenient one passes over white space only,
and then both give the same tokens.  In any other text it refuses the first other character
that the lenient one passes over, and names the number of bytes before it.  That character
belongs to no token, the text before it is accepted, and every text with the same bytes up to
and including it is refused in the same way. -/
theorem scanStrict_agrees (text : String) :
  ((∃ tokens, scanStrict text = .ok tokens)
      ↔ ∀ c ∈ skipped text.toList, Text.isBlank c)
    ∧ ((∀ c ∈ skipped text.toList, Text.isBlank c) →
      scanStrict text = .ok (scan text)
        ∧ Expression.value true text = Expression.value false text)
    ∧ ((∃ c ∈ skipped text.toList, ¬ Text.isBlank c) →
      ∃ (before : String) (c : Char) (after : String),
        text = before ++ String.singleton c ++ after
          ∧ FirstRefused text.toList before.toList c
          ∧ scanStrict text = .error (.unexpectedCharacter c before.utf8ByteSize)
          ∧ before.utf8ByteSize < text.utf8ByteSize
          ∧ ¬ Text.isBlank c ∧ ¬ c.isDigit ∧ ofSymbol? c = none
          ∧ (∃ tokens, scanStrict before = .ok tokens)
          ∧ ∀ other : String,
            other.toByteArray.extract 0 (before.utf8ByteSize + c.utf8Size)
                = text.toByteArray.extract 0 (before.utf8ByteSize + c.utf8Size) →
              scanStrict other = .error (.unexpectedCharacter c before.utf8ByteSize))
  := by
  have haccepted : (∀ c ∈ skipped text.toList, Text.isBlank c) →
      scanStrict text = .ok (scan text) := scanCharsStrict_of_isBlank
  refine ⟨⟨?_, ?_⟩, ?_, ?_⟩
  · rintro ⟨tokens, htokens⟩
    by_contra hskipped
    push Not at hskipped
    obtain ⟨before, c, hfirst⟩ := exists_firstRefused hskipped
    have herror := hfirst.scanCharsStrict_eq
    rw [← scanStrict, htokens] at herror
    cases herror
  · intro h
    exact ⟨_, haccepted h⟩
  · intro h
    refine ⟨haccepted h, ?_⟩
    rw [Expression.value, Expression.value, Expression.tokens, if_pos rfl, haccepted h]
    rfl
  · intro h
    obtain ⟨chars, c, hfirst⟩ := exists_firstRefused h
    rw [← String.toList_ofList (l := chars)] at hfirst
    -- from here on the text before the character is a string, and its bytes can be compared
    generalize String.ofList chars = before at hfirst
    obtain ⟨after, htext⟩ := hfirst.exists_eq_append_singleton
    obtain ⟨hdigit, hsymbol⟩ := of_mem_skipped hfirst.mem_skipped
    have hsize : before.utf8ByteSize < text.utf8ByteSize := by
      have hpos := c.utf8Size_pos
      rw [htext, String.utf8ByteSize_append, String.utf8ByteSize_append,
        String.utf8ByteSize_singleton]
      omega
    have hbefore := scanCharsStrict_of_isBlank hfirst.isBlank_of_mem_skipped_before
    exact ⟨before, c, after, htext, hfirst, hfirst.scanStrict_of_extract_eq rfl, hsize,
      hfirst.not_isBlank, hdigit, hsymbol, ⟨_, hbefore⟩,
      fun _ hother => hfirst.scanStrict_of_extract_eq hother⟩

/-- A cross is refused behind a wide blank and a number with a point, which take five bytes. -/
theorem scanStrict_agrees_with_cross :
  (∃ c ∈ skipped "\u30005.×.".toList, ¬ Text.isBlank c)
    ∧ ∃ before after : String, "\u30005.×." = before ++ String.singleton '×' ++ after
      ∧ before.utf8ByteSize = 5
      ∧ FirstRefused "\u30005.×.".toList before.toList '×'
      ∧ ∃ tokens, scanStrict before = .ok tokens
  := by
  have hrefused : scanStrict "\u30005.×." = .error (.unexpectedCharacter '×' 5) := by
    decide +kernel
  have hskipped : ∃ c ∈ skipped "\u30005.×.".toList, ¬ Text.isBlank c := by
    by_contra hskipped
    push Not at hskipped
    rw [((scanStrict_agrees _).2.1 hskipped).1] at hrefused
    cases hrefused
  obtain ⟨before, c, after, htext, hfirst, herror, -, -, -, -, hbefore, -⟩ :=
    (scanStrict_agrees _).2.2 hskipped
  rw [hrefused] at herror
  obtain ⟨rfl, hsize⟩ := Fault.unexpectedCharacter.inj (Except.error.inj herror)
  exact ⟨hskipped, before, after, htext, hsize.symm, hfirst, hbefore⟩

end DeskCalculator.Token
