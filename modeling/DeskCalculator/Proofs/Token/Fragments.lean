import DeskCalculator.Proofs.Token.Writing

/-!
# Fragments

The lenient reading cuts a text into fragments: the characters of a token, and single
characters that it passes over.  Nothing of the text is lost (`flatMap_text_fragments`),
and the tokens of the fragments are those of the reading (`filterMap_token?_fragments`).

Where a fragment ends depends on no more than the one character after it, so fragments stay
as they are if what follows them is replaced by a text that begins in the same way, or by
nothing (`fragments_append_of_head?`).
-/

namespace DeskCalculator.Token

open Grammar

/-- A part of a text in the lenient reading. -/
inductive Fragment where
  /-- The characters of a token. -/
  | lexeme (text : List Char) (token : Token)
  /-- A character that is passed over. -/
  | skipped (c : Char)

namespace Fragment

/-- The characters of a fragment. -/
def text : Fragment → List Char
  | lexeme text _ => text
  | skipped c => [c]

/-- The token of a fragment, if it has one. -/
def token? : Fragment → Option Token
  | lexeme _ token => some token
  | skipped _ => none

/-- The character that a fragment passes over, if it does. -/
def skipped? : Fragment → Option Char
  | lexeme _ _ => none
  | skipped c => some c

end Fragment

variable {c : Char} {after text lexeme rest : List Char} {token : Token}

/-! ### Cutting a text -/

/-- The fragments of a text. -/
def fragments : List Char → List Fragment
  | [] => []
  | c :: after =>
    match _ : next? (c :: after) with
    | some (token, rest) =>
      .lexeme ((c :: after).take ((c :: after).length - rest.length)) token :: fragments rest
    | none => .skipped c :: fragments after
termination_by text => text.length
decreasing_by
  · exact length_lt_of_next? ‹_›
  · simp

/-- The characters that the lenient reading passes over. -/
def skipped (text : List Char) : List Char :=
  (fragments text).filterMap Fragment.skipped?

@[simp]
theorem fragments_nil :
  fragments [] = []
  := by
  rw [fragments]

/-- A token at the start is a fragment. -/
theorem fragments_of_next?_eq_some (h : next? (lexeme ++ rest) = some (token, rest)) :
  fragments (lexeme ++ rest) = .lexeme lexeme token :: fragments rest
  := by
  have hlexeme : (lexeme ++ rest).take ((lexeme ++ rest).length - rest.length) = lexeme := by
    simp
  generalize lexeme ++ rest = text at h hlexeme
  cases text with
  | nil => cases h
  | cons c after =>
    rw [fragments]
    split
    · next htoken =>
      rw [h] at htoken
      cases htoken
      rw [hlexeme]
    · next hnone =>
      rw [h] at hnone
      cases hnone

/-- A character that starts no token is a fragment. -/
theorem fragments_of_next?_eq_none (h : next? (c :: after) = none) :
  fragments (c :: after) = .skipped c :: fragments after
  := by
  rw [fragments]
  split
  · next htoken =>
    rw [h] at htoken
    cases htoken
  · rfl

/-- What holds of the empty text, and of a text with a token or with a character that starts
no token before it if it holds of that text, holds of every text. -/
@[elab_as_elim]
theorem reading_induction {motive : List Char → Prop} (nil : motive [])
    (lexeme : ∀ lexeme rest token, next? (lexeme ++ rest) = some (token, rest) → motive rest →
      motive (lexeme ++ rest))
    (skipped : ∀ c after, next? (c :: after) = none → motive after → motive (c :: after))
    (text : List Char) :
  motive text
  := by
  fun_induction fragments text with
  | case1 => apply nil
  | case2 c after token rest hnext ih =>
    obtain ⟨terminal, htext, -, -⟩ := next?_eq_some_iff.mp hnext
    rw [htext] at hnext ⊢
    apply lexeme _ rest token hnext ih
  | case3 c after hnext ih => apply skipped c after hnext ih

/-- The fragments of a text make up the text. -/
theorem flatMap_text_fragments (text : List Char) :
  (fragments text).flatMap Fragment.text = text
  := by
  induction text using reading_induction with
  | nil => simp
  | lexeme lexeme rest token hnext ih =>
    rw [fragments_of_next?_eq_some hnext, List.flatMap_cons, ih]
    rfl
  | skipped c after hnext ih =>
    rw [fragments_of_next?_eq_none hnext, List.flatMap_cons, ih]
    rfl

/-- The tokens of the fragments are those of the lenient reading. -/
theorem filterMap_token?_fragments (text : List Char) :
  (fragments text).filterMap Fragment.token? = scanChars text
  := by
  induction text using reading_induction with
  | nil => simp
  | lexeme lexeme rest token hnext ih =>
    rw [fragments_of_next?_eq_some hnext, scanChars_of_next?_eq_some hnext, ← ih]
    rfl
  | skipped c after hnext ih =>
    rw [fragments_of_next?_eq_none hnext, scanChars_of_next?_eq_none hnext, ← ih]
    rfl

/-- The characters of a token in a text are those of its terminal. -/
theorem exists_terminal_of_mem_fragments (h : .lexeme lexeme token ∈ fragments text) :
  ∃ terminal : Terminal Literal, lexeme = terminal.text
    ∧ token = terminal.token Literal.toFloat
  := by
  induction text using reading_induction with
  | nil => simp at h
  | lexeme others rest token hnext ih =>
    rw [fragments_of_next?_eq_some hnext] at h
    obtain h | h := List.mem_cons.mp h
    · cases h
      obtain ⟨terminal, htext, htoken, -⟩ := next?_eq_some_iff.mp hnext
      exact ⟨terminal, List.append_cancel_right htext, htoken⟩
    · apply ih h
  | skipped c after hnext ih =>
    rw [fragments_of_next?_eq_none hnext] at h
    obtain h | h := List.mem_cons.mp h
    · cases h
    · apply ih h

/-- An operator that is read from a text is written in it. -/
theorem symbol_mem_of_operator_mem_scanChars {op : Operator} (h : .operator op ∈ scanChars text) :
  op.symbol ∈ text
  := by
  rw [← filterMap_token?_fragments, List.mem_filterMap] at h
  obtain ⟨part, hpart, htoken⟩ := h
  cases part with
  | skipped => cases htoken
  | lexeme lexeme token =>
    cases htoken
    rw [← flatMap_text_fragments text]
    apply List.mem_flatMap.mpr ⟨_, hpart, _⟩
    obtain ⟨terminal, rfl, hoperator⟩ := exists_terminal_of_mem_fragments hpart
    cases terminal <;> cases hoperator
    apply List.mem_singleton_self

/-- A character that is passed over is neither a digit nor a token on its own. -/
theorem of_mem_skipped (h : c ∈ skipped text) :
  ¬ c.isDigit ∧ ofSymbol? c = none
  := by
  induction text using reading_induction with
  | nil => simp [skipped] at h
  | lexeme lexeme rest token hnext ih =>
    rw [skipped, fragments_of_next?_eq_some hnext] at h
    apply ih h
  | skipped d after hnext ih =>
    rw [skipped, fragments_of_next?_eq_none hnext] at h
    obtain rfl | h := List.mem_cons.mp h
    · apply next?_eq_none_iff.mp hnext
    · apply ih h

/-! ### Replacing what follows -/

/-- A token is read off its own characters and the one after them. -/
theorem next?_append_of_head? {tail : List Char}
    (h : next? (lexeme ++ rest) = some (token, rest))
    (htail : ∀ c ∈ tail.head?, c ∈ rest.head?) :
  next? (lexeme ++ tail) = some (token, tail)
  := by
  obtain ⟨terminal, htext, htoken, hends⟩ := next?_eq_some_iff.mp h
  obtain rfl := List.append_cancel_right htext
  apply next?_eq_some_iff.mpr ⟨terminal, rfl, htoken, _⟩
  intro a ha c hc
  apply hends a ha c (htail c hc)

/-- The first fragment of a text is followed by the fragments of the rest, and stays as it is
if the rest is replaced. -/
theorem fragments_eq_cons {first : Fragment} {others : List Fragment}
    (h : fragments text = first :: others) :
  ∃ rest, text = first.text ++ rest ∧ fragments rest = others
    ∧ ∀ tail : List Char, (∀ c ∈ tail.head?, c ∈ rest.head?) →
      fragments (first.text ++ tail) = first :: fragments tail
  := by
  induction text using reading_induction with
  | nil => simp at h
  | lexeme lexeme rest token hnext _ =>
    rw [fragments_of_next?_eq_some hnext] at h
    cases h
    use rest, rfl, rfl
    intro tail htail
    apply fragments_of_next?_eq_some (next?_append_of_head? hnext htail)
  | skipped c after hnext _ =>
    rw [fragments_of_next?_eq_none hnext] at h
    cases h
    use after, rfl, rfl
    intro tail _
    apply fragments_of_next?_eq_none
    apply next?_eq_none_iff.mpr (next?_eq_none_iff.mp hnext)

/-- The fragments at the start of a text stay as they are if what follows them is replaced by
a text that begins in the same way, or by nothing. -/
theorem fragments_append_of_head? {front back : List Fragment} {tail : List Char}
    (h : fragments text = front ++ back)
    (htail : ∀ c ∈ tail.head?, c ∈ (back.flatMap Fragment.text).head?) :
  fragments (front.flatMap Fragment.text ++ tail) = front ++ fragments tail
  := by
  induction front generalizing text with
  | nil => rfl
  | cons first front ih =>
    obtain ⟨rest, -, hrest, hreplace⟩ := fragments_eq_cons h
    have hsplit : rest = front.flatMap Fragment.text ++ back.flatMap Fragment.text := by
      rw [← List.flatMap_append, ← flatMap_text_fragments rest]
      exact congrArg _ hrest
    have hhead : ∀ c ∈ (front.flatMap Fragment.text ++ tail).head?, c ∈ rest.head? := by
      rw [hsplit]
      -- only behind the last of the fragments the replaced text comes next
      cases front.flatMap Fragment.text with
      | nil => apply htail
      | cons d others => exact fun c hc => hc
    rw [List.flatMap_cons, List.append_assoc, hreplace _ hhead, ih hrest, List.cons_append]

end DeskCalculator.Token
