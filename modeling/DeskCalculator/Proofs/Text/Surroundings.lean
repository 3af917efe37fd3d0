import DeskCalculator.Proofs.Text.Lowercase

/-!
# Lower-case forms within longer texts

What stands around a character matters for the lower-case form of a capital sigma only, and tells
no more than which small sigma it becomes.  So with medial sigmas in place of final ones, the
lower-case form of a text is made of those of its characters (`map_medial_lowercase`), and a word
without small sigmas that occurs in the lower-case form of a text occurs in that of every longer
text (`infix_lowercase_append`).

White space is not cased, and it is not passed over where the neighbours of a sigma are looked for.
So around a text it changes nothing in the lower-case form of the text
(`lowercase_between_blanks`), and a word without white space occurs between white space exactly if
it occurs in the text alone (`infix_between_blanks_iff`).
-/

namespace DeskCalculator.Text

variable {c : Char} {word text front back gap : List Char}

/-! ### Medial sigmas -/

/-- A character, with the medial small sigma in place of the final one. -/
def medial (c : Char) : Char :=
  if c = 'ς' then 'σ' else c

/-- The lower-case form of a character, with the medial sigma whatever stands around it. -/
def lowerMedial (c : Char) : List Char :=
  (lowerInContext [] c []).map medial

/-- What stands around a character shows in no more than the form of a small sigma. -/
theorem map_medial_lowerInContext (before : List Char) (c : Char) (after : List Char) :
  (lowerInContext before c after).map medial = lowerMedial c
  := by
  rw [lowerMedial, lowerInContext, lowerInContext]
  by_cases hsigma : c = 'Σ'
  · rw [if_pos hsigma, if_pos hsigma]
    split <;> rfl
  · rw [if_neg hsigma, if_neg hsigma]

theorem map_medial_lowercaseAfter (before text : List Char) :
  (lowercaseAfter before text).map medial = text.flatMap lowerMedial
  := by
  induction text generalizing before with
  | nil => rfl
  | cons c after ih =>
    rw [lowercaseAfter, List.map_append, map_medial_lowerInContext, ih, List.flatMap_cons]

/-- With medial sigmas, the lower-case form of a text is made of those of its characters. -/
theorem map_medial_lowercase (text : List Char) :
  (lowercase text).map medial = text.flatMap lowerMedial
  := map_medial_lowercaseAfter [] text

/-- A word without small sigmas occurs in a text exactly if it occurs in the text with medial
sigmas. -/
theorem infix_map_medial_iff (hmedial : 'σ' ∉ word) (hfinal : 'ς' ∉ word) :
  word <:+: text.map medial ↔ word <:+: text
  := by
  constructor
  · intro h
    obtain ⟨part, hpart, rfl⟩ := List.infix_map_iff.mp h
    have hself : ∀ c ∈ part, medial c = c := by
      intro c hc
      apply if_neg
      rintro rfl
      apply hmedial
      apply List.mem_map.mpr ⟨'ς', hc, rfl⟩
    rwa [List.map_congr_left hself, List.map_id']
  · intro h
    have hself : ∀ c ∈ word, medial c = c := by
      intro c hc
      apply if_neg
      rintro rfl
      apply hfinal hc
    have hmap := h.map medial
    rwa [List.map_congr_left hself, List.map_id'] at hmap

/-- A word without small sigmas that occurs in the lower-case form of a text occurs in that of
every longer text. -/
theorem infix_lowercase_append (hmedial : 'σ' ∉ word) (hfinal : 'ς' ∉ word)
    (h : word <:+: lowercase text) (before after : List Char) :
  word <:+: lowercase (before ++ text ++ after)
  := by
  rw [← infix_map_medial_iff hmedial hfinal, map_medial_lowercase] at h ⊢
  rw [List.flatMap_append, List.flatMap_append]
  apply h.trans (List.infix_append _ _ _)

/-! ### White space around a text -/

/-- White space is not cased. -/
theorem isCased_of_isBlank (h : isBlank c) :
  isCased c = false
  := by
  have hcodes : ∀ code ∈ blankCodes, CodeSet.within code casedCodes.bounds = false := by
    decide +kernel
  apply hcodes _ (List.contains_iff_mem.mp h)

/-- White space matters for the case of its neighbours. -/
theorem isCaseIgnorable_of_isBlank (h : isBlank c) :
  isCaseIgnorable c = false
  := by
  have hcodes : ∀ code ∈ blankCodes, CodeSet.within code caseIgnorableCodes.bounds = false := by
    decide +kernel
  apply hcodes _ (List.contains_iff_mem.mp h)

/-- White space behind a text is no cased letter at its start. -/
theorem startsCased_append (hgap : ∀ c ∈ gap, isBlank c) (text : List Char) :
  startsCased (text ++ gap) = startsCased text
  := by
  rw [startsCased, startsCased, List.dropWhile_append]
  cases text.dropWhile isCaseIgnorable with
  | nil =>
    -- nothing in the text matters for case, so its white space is looked at, which is not cased
    cases gap with
    | nil => rfl
    | cons c gap =>
      have hc : isBlank c := hgap c List.mem_cons_self
      have hignorable : ¬ isCaseIgnorable c := by
        rw [isCaseIgnorable_of_isBlank hc]
        decide
      rw [List.isEmpty_nil, if_pos rfl, List.dropWhile_cons_of_neg hignorable]
      apply isCased_of_isBlank hc
  | cons d rest => rfl

/-- White space at both ends changes no lower-case form of a character between them. -/
theorem lowerInContext_append (hfront : ∀ c ∈ front, isBlank c) (hback : ∀ c ∈ back, isBlank c)
    (before : List Char) (c : Char) (after : List Char) :
  lowerInContext (before ++ front) c (after ++ back) = lowerInContext before c after
  := by
  simp only [lowerInContext, startsCased_append hfront, startsCased_append hback]

/-- White space at the far ends changes nothing in the lower-case form of a text between them. -/
theorem lowercaseAfter_append (hfront : ∀ c ∈ front, isBlank c) (hback : ∀ c ∈ back, isBlank c)
    (before text : List Char) :
  lowercaseAfter (before ++ front) (text ++ back) = lowercaseAfter before text ++ back
  := by
  induction text generalizing before with
  | nil => apply lowercaseAfter_eq_self fun c hc => keepsCase_of_isBlank (hback c hc)
  | cons c after ih =>
    rw [List.cons_append, lowercaseAfter, lowerInContext_append hfront hback, ← List.cons_append,
      ih, lowercaseAfter, List.append_assoc]

/-- White space at the start is its own lower-case form. -/
theorem lowercaseAfter_gap_append (hgap : ∀ c ∈ gap, isBlank c) (before text : List Char) :
  lowercaseAfter before (gap ++ text) = gap ++ lowercaseAfter (gap.reverse ++ before) text
  := by
  induction gap generalizing before with
  | nil => rfl
  | cons c gap ih =>
    obtain ⟨hc, hgap⟩ := List.forall_mem_cons.mp hgap
    rw [List.cons_append, lowercaseAfter, keepsCase_of_isBlank hc, ih hgap, List.reverse_cons,
      List.append_assoc, List.singleton_append, List.cons_append, List.singleton_append]

/-- The lower-case form of a text between white space is that of the text between the white
space. -/
theorem lowercase_between_blanks (hfront : ∀ c ∈ front, isBlank c) (hback : ∀ c ∈ back, isBlank c)
    (text : List Char) :
  lowercase (front ++ text ++ back) = front ++ lowercase text ++ back
  := by
  have hreverse : ∀ c ∈ front.reverse, isBlank c := fun c hc => hfront c (List.mem_reverse.mp hc)
  have htext := lowercaseAfter_append hreverse hback [] text
  rw [List.nil_append] at htext
  rw [lowercase, List.append_assoc, lowercaseAfter_gap_append hfront, List.append_nil, htext,
    lowercase, List.append_assoc]

/-! ### Words between white space -/

/-- A word without white space does not begin within white space before a text. -/
theorem infix_gap_append_iff (hne : word ≠ []) (hword : ∀ c ∈ word, ¬ isBlank c)
    (hgap : ∀ c ∈ gap, isBlank c) :
  word <:+: gap ++ text ↔ word <:+: text
  := by
  induction gap with
  | nil => rfl
  | cons c gap ih =>
    obtain ⟨hc, hgap⟩ := List.forall_mem_cons.mp hgap
    have hprefix : ¬ word <+: c :: (gap ++ text) := by
      rw [List.prefix_cons_iff]
      rintro (hnil | ⟨rest, rfl, -⟩)
      · apply hne hnil
      · apply hword c List.mem_cons_self hc
    rw [List.cons_append, List.infix_cons_iff, or_iff_right hprefix, ih hgap]

/-- A word without white space occurs in a text between white space exactly if it occurs in the
text. -/
theorem infix_between_blanks_iff (hne : word ≠ []) (hword : ∀ c ∈ word, ¬ isBlank c)
    (hfront : ∀ c ∈ front, isBlank c) (hback : ∀ c ∈ back, isBlank c) :
  word <:+: front ++ text ++ back ↔ word <:+: text
  := by
  have hreverse : ∀ c ∈ back.reverse, isBlank c := fun c hc => hback c (List.mem_reverse.mp hc)
  have hword' : ∀ c ∈ word.reverse, ¬ isBlank c := fun c hc => hword c (List.mem_reverse.mp hc)
  have hne' : word.reverse ≠ [] := mt List.reverse_eq_nil_iff.mp hne
  rw [List.append_assoc, infix_gap_append_iff hne hword hfront, ← List.reverse_infix,
    List.reverse_append, infix_gap_append_iff hne' hword' hreverse, List.reverse_infix]

end DeskCalculator.Text
