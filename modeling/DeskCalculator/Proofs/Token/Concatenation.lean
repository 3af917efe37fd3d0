import DeskCalculator.Proofs.Token.Refusal

/-!
# Concatenated texts

There is a boundary between two texts if no number can reach over it: the character before it
or the character behind it is neither a digit nor a point, or there is none.  Two texts with a
boundary between them are read one after the other (`fragments_append`).  So the lenient
reading appends their tokens, and the strict reading refuses what it refuses in one of them
alone, where a fault of the second text lies behind all bytes of the first
(`scanCharsStrict_append`).
-/

namespace DeskCalculator

/-- A fault of a text, as a fault of the text behind a number of bytes. -/
def Fault.behind (bytes : Nat) : Fault → Fault
  | unexpectedCharacter c offset => unexpectedCharacter c (bytes + offset)
  | fault => fault

namespace Token

open Grammar

variable {c : Char} {before after lexeme rest start : List Char}

/-! ### Boundaries -/

/-- No number can reach over the place between two texts. -/
def IsBoundary (before after : List Char) : Prop :=
  (∀ c ∈ before.getLast?, ¬ c.isDigit ∧ c ≠ '.') ∨ EndsLiteral after

/-- A boundary stays a boundary if the text before it begins later. -/
theorem IsBoundary.of_append (h : IsBoundary (start ++ before) after) :
  IsBoundary before after
  := by
  obtain hbefore | hafter := h
  · left
    intro c hc
    apply hbefore
    rw [List.getLast?_append, hc]
    rfl
  · right
    apply hafter

/-- Behind a literal there is a boundary only if the text does not go on with it. -/
theorem IsBoundary.endsLiteral {literal : Literal} (h : IsBoundary literal.text after) :
  EndsLiteral after
  := by
  obtain hbefore | hafter := h
  · have hlast := List.getLast_mem literal.text_ne_nil
    have hneither := hbefore _ (List.getLast?_eq_getLast_of_ne_nil literal.text_ne_nil)
    exact absurd (literal.isDigit_or_eq_point_of_mem_text hlast) (not_or.mpr hneither)
  · apply hafter

/-! ### Reading over a boundary -/

/-- A token before a boundary is read as if the text ended there. -/
theorem next?_append_of_isBoundary {token : Token}
    (hnext : next? (lexeme ++ rest) = some (token, rest))
    (h : IsBoundary (lexeme ++ rest) after) :
  next? (lexeme ++ (rest ++ after)) = some (token, rest ++ after)
  := by
  obtain ⟨terminal, htext, htoken, hends⟩ := next?_eq_some_iff.mp hnext
  obtain rfl := List.append_cancel_right htext
  apply next?_eq_some_iff.mpr ⟨terminal, rfl, htoken, _⟩
  rintro a rfl
  cases rest with
  | nil =>
    rw [List.append_nil] at h
    apply h.endsLiteral.endsBefore
  | cons c rest => apply hends a rfl

/-- The fragments of two texts with a boundary between them. -/
theorem fragments_append (h : IsBoundary before after) :
  fragments (before ++ after) = fragments before ++ fragments after
  := by
  induction before using reading_induction with
  | nil => rw [fragments_nil, List.nil_append, List.nil_append]
  | lexeme lexeme rest token hnext ih =>
    rw [List.append_assoc, fragments_of_next?_eq_some (next?_append_of_isBoundary hnext h),
      fragments_of_next?_eq_some hnext, ih h.of_append, List.cons_append]
  | skipped c rest hnext ih =>
    have hwhole : next? (c :: (rest ++ after)) = none :=
      next?_eq_none_iff.mpr (next?_eq_none_iff.mp hnext)
    have hrest : IsBoundary ([c] ++ rest) after := h
    rw [List.cons_append, fragments_of_next?_eq_none hwhole, fragments_of_next?_eq_none hnext,
      ih hrest.of_append, List.cons_append]

theorem scanChars_append (h : IsBoundary before after) :
  scanChars (before ++ after) = scanChars before ++ scanChars after
  := by
  rw [← filterMap_token?_fragments, fragments_append h, List.filterMap_append,
    filterMap_token?_fragments, filterMap_token?_fragments]

theorem skipped_append (h : IsBoundary before after) :
  skipped (before ++ after) = skipped before ++ skipped after
  := by
  rw [skipped, fragments_append h, List.filterMap_append, skipped, skipped]

/-! ### Refusals -/

/-- A text is refused as it is without what comes behind a boundary. -/
theorem FirstRefused.append_right (h : FirstRefused before start c)
    (hboundary : IsBoundary before after) :
  FirstRefused (before ++ after) start c
  := by
  obtain ⟨front, back, hfragments, hstart, hfront, hblank⟩ := h
  refine ⟨front, back ++ fragments after, ?_, hstart, hfront, hblank⟩
  rw [fragments_append hboundary, hfragments, List.append_assoc, List.cons_append]

/-- Behind an accepted text and a boundary, a text is refused as it is alone. -/
theorem FirstRefused.append_left (h : FirstRefused after start c)
    (hboundary : IsBoundary before after) (hbefore : ∀ d ∈ skipped before, Text.isBlank d) :
  FirstRefused (before ++ after) (before ++ start) c
  := by
  obtain ⟨front, back, hfragments, hstart, hfront, hblank⟩ := h
  refine ⟨fragments before ++ front, back, ?_, ?_, ?_, hblank⟩
  · rw [fragments_append hboundary, hfragments, List.append_assoc]
  · rw [List.flatMap_append, flatMap_text_fragments, hstart]
  · rw [List.filterMap_append]
    apply List.forall_mem_append.mpr ⟨hbefore, hfront⟩

/-- The strict reading of two texts with a boundary between them. -/
theorem scanCharsStrict_append (h : IsBoundary before after) :
  scanCharsStrict (before ++ after)
    = match scanCharsStrict before, scanCharsStrict after with
      | .ok tokens, .ok others => .ok (tokens ++ others)
      | .ok _, .error fault => .error (fault.behind (byteLength before))
      | .error fault, _ => .error fault
  := by
  by_cases hbefore : ∀ d ∈ skipped before, Text.isBlank d
  · rw [scanCharsStrict_of_isBlank hbefore]
    by_cases hafter : ∀ d ∈ skipped after, Text.isBlank d
    · have hwhole : ∀ d ∈ skipped (before ++ after), Text.isBlank d := by
        rw [skipped_append h]
        apply List.forall_mem_append.mpr ⟨hbefore, hafter⟩
      rw [scanCharsStrict_of_isBlank hafter, scanCharsStrict_of_isBlank hwhole, scanChars_append h]
    · push Not at hafter
      obtain ⟨start, c, hfirst⟩ := exists_firstRefused hafter
      rw [hfirst.scanCharsStrict_eq, (hfirst.append_left h hbefore).scanCharsStrict_eq,
        byteLength_append]
      rfl
  · push Not at hbefore
    obtain ⟨start, c, hfirst⟩ := exists_firstRefused hbefore
    rw [hfirst.scanCharsStrict_eq, (hfirst.append_right h).scanCharsStrict_eq]

/-! ### Texts -/

/-- Two texts with a boundary between them are read one after the other.  The lenient reading
appends their tokens.  The strict reading accepts them exactly if it accepts both, and appends
their tokens, too; otherwise it has the fault of the first text, or else that of the second
text with an offset that is larger by the number of bytes of the first. -/
theorem scan_append {before after : String} (h : IsBoundary before.toList after.toList) :
  scan (before ++ after) = scan before ++ scan after
    ∧ scanStrict (before ++ after)
      = match scanStrict before, scanStrict after with
        | .ok tokens, .ok others => .ok (tokens ++ others)
        | .ok _, .error fault => .error (fault.behind before.utf8ByteSize)
        | .error fault, _ => .error fault
  := by
  constructor
  · rw [scan, String.toList_append, scanChars_append h, scan, scan]
  · rw [scanStrict, String.toList_append, scanCharsStrict_append h, byteLength_toList, scanStrict,
      scanStrict]

/-- The boundary between a wide blank with the number `5.` and the text `+7 ×.5`, whose cross is
refused. -/
theorem scan_append_of_point_and_operator :
  IsBoundary "\u30005.".toList "+7 ×.5".toList
    ∧ scan "\u30005.+7 ×.5" = scan "\u30005." ++ scan "+7 ×.5"
    ∧ scanStrict "\u30005.+7 ×.5" = .error (.unexpectedCharacter '×' (5 + 3))
  := by
  have hboundary : IsBoundary "\u30005.".toList "+7 ×.5".toList := by
    right
    rintro _ ⟨⟩
    decide
  have hbefore : scanStrict "\u30005." = .ok [.number 5] := by decide +kernel
  have hafter : scanStrict "+7 ×.5" = .error (.unexpectedCharacter '×' 3) := by decide +kernel
  obtain ⟨hscan, hstrict⟩ := scan_append hboundary
  rw [hbefore, hafter] at hstrict
  exact ⟨hboundary, hscan, hstrict⟩

end Token

end DeskCalculator
