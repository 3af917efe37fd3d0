import DeskCalculator.CommandLine.Eval
import DeskCalculator.Proofs.Diagnostic
import DeskCalculator.Proofs.Text.Cells
import DeskCalculator.Proofs.Text.Lines
import DeskCalculator.Proofs.Token.Factorisation

/-!
# Reports

The report of a reason shows all of the reason but spaces at the ends of lines (`exists_report`),
and its lines have at most 78 columns (`shownWidth_le_of_mem_lines_report`).

The report of a diagnostic shows consecutive lines of the expression (`shown_isInfix`).  If the
expression is one line, it shows this line, and the label stands below it, under the character
that it covers (`report_of_line`).  A character that is refused in a message of one line is
explained in this way (`explanation_of_refused`): before it there are no commands to the terminal,
since they would have been refused, and it is no tab.
-/

namespace DeskCalculator.CommandLine.Outcome

open Text

/-! ### Reasons -/

/-- The report of a reason is made of lines that are the reason but for the spaces between
them. -/
theorem exists_report (reason : String) :
  ∃ shown : List Word, shown.flatMap Word.text = reason.toList
    ∧ report reason
      = "  × " ++ "\n  │ ".intercalate (shown.map fun line => String.ofList line.letters) ++ "\n\n"
  := by
  obtain ⟨shown, hletters, htext⟩ := exists_words_of_wrap 74 reason.toList
  use shown, htext
  rw [report, ← hletters, List.map_map]
  rfl

/-- The characters of a report. -/
theorem toList_report (reason : String) :
  (report reason).toList
    = "  × ".toList ++ ('\n' :: "  │ ".toList).intercalate (wrap 74 reason.toList) ++ "\n\n".toList
  := by
  have hlist : String.toList ∘ String.ofList = id := by
    funext chars
    apply String.toList_ofList
  rw [report, String.toList_append, String.toList_append, String.toList_intercalate,
    List.map_map, hlist, List.map_id]
  rfl

/-- The lines of a report: the first one is behind a cross, the others are behind a bar, and an
empty one ends the report. -/
theorem lines_report {reason : String} (hreason : '\n' ∉ reason.toList) :
  lines (report reason).toList
    = ("  × ".toList ++ (wrap 74 reason.toList).headD [])
      :: (wrap 74 reason.toList).tail.map ("  │ ".toList ++ ·) ++ [[]]
  := by
  have hfeed : ∀ line ∈ wrap 74 reason.toList, '\n' ∉ line :=
    fun line hline hmem => hreason (mem_of_mem_wrap hline hmem)
  rw [toList_report]
  cases hwrap : wrap 74 reason.toList with
  | nil => decide +kernel
  | cons first later =>
    rw [hwrap] at hfeed
    apply lines_intercalate_mark (by decide) (by decide) hfeed

/-- No line of a report is wider than 78 columns. -/
theorem shownWidth_le_of_mem_lines_report {reason : String} (hreason : '\n' ∉ reason.toList)
    {line : List Char} (h : line ∈ lines (report reason).toList) :
  shownWidth line ≤ 78
  := by
  have hwidth : ∀ line ∈ wrap 74 reason.toList, shownWidth line ≤ 74 :=
    fun line hline => shownWidth_le_of_mem_wrap (by decide) hline
  have hcross : shownWidth "  × ".toList = 4 := by decide +kernel
  have hbar : shownWidth "  │ ".toList = 4 := by decide +kernel
  have hfirst : shownWidth ((wrap 74 reason.toList).headD []) ≤ 74 := by
    cases hwrap : wrap 74 reason.toList with
    | nil => apply Nat.zero_le
    | cons first later =>
      rw [hwrap] at hwidth
      apply hwidth first List.mem_cons_self
  rw [lines_report hreason, List.mem_append, List.mem_cons, List.mem_map, List.mem_singleton] at h
  obtain (rfl | ⟨part, hpart, rfl⟩) | rfl := h
  · rw [shownWidth_append, hcross]
    omega
  · have hpart := hwidth part (List.mem_of_mem_tail hpart)
    rw [shownWidth_append, hbar]
    omega
  · apply Nat.zero_le

end DeskCalculator.CommandLine.Outcome

namespace DeskCalculator.Diagnostic

open Text

variable {d : Diagnostic}

/-! ### Lines of the expression -/

/-- The shown lines are consecutive lines of the expression. -/
theorem shown_isInfix (d : Diagnostic) :
  d.shown <:+: d.expression.toList
  := by
  use ((fullLines d.before).take (d.linesBefore - margin)).flatten,
    ((fullLines d.after).drop (margin + 1)).flatten
  calc ((fullLines d.before).take (d.linesBefore - margin)).flatten ++ d.shown
        ++ ((fullLines d.after).drop (margin + 1)).flatten
      = (fullLines d.before).flatten ++ (fullLines d.after).flatten := by
        rw [shown, shownBefore, ← List.append_assoc, ← List.flatten_append,
          List.take_append_drop, List.append_assoc, ← List.flatten_append,
          List.take_append_drop]
    _ = d.before ++ d.after := by rw [flatten_fullLines, flatten_fullLines]
    _ = d.expression.toList := before_append_after d

/-! ### Expressions of one line -/

theorem before_subset (d : Diagnostic) :
  d.before ⊆ d.expression.toList
  := by
  rw [← before_append_after]
  apply List.subset_append_left

theorem after_subset (d : Diagnostic) :
  d.after ⊆ d.expression.toList
  := by
  rw [← before_append_after]
  apply List.subset_append_right

variable (hline : IsLine d.expression.toList)

include hline

theorem linesBefore_eq_zero :
  d.linesBefore = 0
  := by
  have hbefore : IsLine d.before := hline.of_subset (before_subset d)
  rw [linesBefore]
  by_cases hne : d.before = []
  · rw [hne]
    rfl
  · rw [hbefore.fullLines_eq hne, List.countP_singleton, hbefore.isEnded_eq_false]
    rfl

theorem shownBefore_eq :
  d.shownBefore = d.before
  := by
  rw [shownBefore, linesBefore_eq_zero hline, Nat.zero_sub, List.drop_zero, flatten_fullLines]

/-- An expression of one line is shown. -/
theorem shown_eq :
  d.shown = d.expression.toList
  := by
  have hafter : ((fullLines d.after).take (margin + 1)).flatten = d.after := by
    by_cases hne : d.after = []
    · rw [hne]
      rfl
    · rw [(hline.of_subset (after_subset d)).fullLines_eq hne]
      apply List.flatten_singleton
  rw [shown, shownBefore_eq hline, hafter, before_append_after]

theorem numberedLines_eq (hne : d.expression.toList ≠ []) :
  d.numberedLines = [(1, d.expression.toList)]
  := by
  have hlast : d.expression.toList.getLast? ≠ some '\r' :=
    fun hreturn => hline.return_not_mem (List.mem_of_getLast? hreturn)
  rw [numberedLines, shown_eq hline, hline.shownLines_eq hne, linesBefore_eq_zero hline]
  simp [hlast]

/-- The one line and its label; its number has one digit. -/
theorem excerpt_eq (hne : d.expression.toList ≠ []) :
  d.excerpt 1
    = " 1 │ " ++ String.ofList (expandTabs d.expression.toList) ++ "\n" ++ d.labelLines "   · "
  := by
  have hbefore : IsLine d.before := hline.of_subset (before_subset d)
  have hlabelled : d.shownBefore.count '\n' = 0 := by
    rw [shownBefore_eq hline]
    apply List.count_eq_zero_of_not_mem hbefore.lineFeed_not_mem
  have hnumber : " " ++ repeated (1 - (toString 1).length) ' ' ++ toString 1 ++ " │ "
      = " 1 │ " := by
    decide +kernel
  have hgutter : repeated (1 + 2) ' ' ++ "· " = "   · " := by
    decide +kernel
  rw [excerpt, numberedLines_eq hline hne, hlabelled]
  simp only [List.zipIdx_cons, List.zipIdx_nil, List.map_cons, List.map_nil, String.join_cons,
    String.join_nil, String.append_empty, if_true]
  rw [hnumber, hgutter]

theorem byteInLine_eq :
  d.byteInLine = Token.byteLength d.before
  := by
  rw [byteInLine, linesBefore_eq_zero hline, List.drop_zero, flatten_fullLines]
  rfl

omit hline

/-! ### The label -/

/-- The characters before the byte at which a character starts are those before the character. -/
theorem charsBefore_byteLength (front : List Char) (c : Char) (back : List Char) :
  charsBefore (Token.byteLength front) (front ++ c :: back) = front
  := by
  induction front with
  | nil =>
    have hpos : ¬ c.utf8Size ≤ 0 := Nat.not_le.mpr c.utf8Size_pos
    rw [List.nil_append, charsBefore, Token.byteLength_nil, if_neg hpos]
  | cons first rest ih =>
    rw [List.cons_append, charsBefore, Token.byteLength_cons, if_pos (Nat.le_add_right _ _),
      Nat.add_sub_cancel_left, ih]

/-- The rule under a character with a number of columns. -/
def rule (columns : Nat) : String :=
  repeated (columns / 2) '─' ++ "┬" ++ repeated (columns - columns / 2 - 1) '─'

variable {front back : List Char}

/-- In an expression of one line, the label starts in the column in which the character behind
the given text is printed. -/
theorem labelLines_eq (hline : IsLine d.expression.toList) (hbefore : d.before = front)
    (hescape : '\x1b' ∉ front) (htab : d.character ≠ '\t') (gutter : String) :
  d.labelLines gutter
    = gutter ++ repeated (shownWidth (expandTabs front)) ' '
      ++ rule (max 1 (shownCharWidth d.character)) ++ "\n"
      ++ gutter ++ repeated (shownWidth (expandTabs front)
        + max 1 (shownCharWidth d.character) / 2) ' ' ++ "╰── " ++ label ++ "\n"
  := by
  have hleft : (d.shownBefore.reverse.takeWhile (· ≠ '\n')).reverse = front := by
    have hfront : IsLine front := hbefore ▸ hline.of_subset (before_subset d)
    have hall : ∀ c ∈ front.reverse, decide (c ≠ '\n') = true := by
      intro c hc
      rw [decide_eq_true_iff]
      rintro rfl
      exact hfront.lineFeed_not_mem (List.mem_reverse.mp hc)
    rw [shownBefore_eq hline, hbefore, List.takeWhile_eq_self_iff.mpr hall, List.reverse_reverse]
  rw [labelLines, hleft, cellCount_append_singleton hescape htab, Nat.add_sub_cancel_left,
    shownWidth_expandTabs hescape, rule]
  simp only [String.append_assoc]

/-- The report that shows one line: the text `left`, the character of the diagnostic under which
the label stands, and the text `right`. -/
def lineReport (d : Diagnostic) (left right : List Char) : String :=
  let column := shownWidth left
  let columns := max 1 (shownCharWidth d.character)
  code ++ "\n\n" ++
    "  × " ++ d.message ++ "\n" ++
    "   ╭─[input:1:" ++ toString (d.offset + 1) ++ "]\n" ++
    " 1 │ " ++ String.ofList (left ++ d.character :: right) ++ "\n" ++
    "   · " ++ repeated column ' ' ++ rule columns ++ "\n" ++
    "   · " ++ repeated (column + columns / 2) ' ' ++ "╰── " ++ label ++ "\n" ++
    "   ╰────\n" ++
    "  help: " ++ help ++ "\n\n"

/-- The report of a diagnostic whose label covers a character in an expression of one line. -/
theorem report_of_line (hline : IsLine d.expression.toList)
    (hexpression : d.expression.toList = front ++ d.character :: back)
    (hoffset : Token.byteLength front = d.offset) (hescape : '\x1b' ∉ front)
    (htab : d.character ≠ '\t') :
  ∃ printed, ('\t' ∉ back → printed = back)
    ∧ d.report = d.lineReport (expandTabs front) printed
  := by
  have hbefore : d.before = front := by
    rw [before, hexpression, ← hoffset, charsBefore_byteLength]
  have hne : d.expression.toList ≠ [] := by
    rw [hexpression]
    apply List.append_ne_nil_of_right_ne_nil
    apply List.cons_ne_nil
  obtain ⟨printed, hprinted, hback⟩ := exists_expandTabs_append hescape htab back
  refine ⟨printed, hback, ?_⟩
  have hdigits : (toString 1).length = 1 := by decide +kernel
  have hcorner : repeated (1 + 2) ' ' ++ "╭─[input:" ++ toString (0 + 1) ++ ":"
      = "   ╭─[input:1:" := by
    decide +kernel
  have hfoot : repeated (1 + 2) ' ' ++ "╰────\n" = "   ╰────\n" := by decide +kernel
  unfold report lineReport
  rw [numberedLines_eq hline hne, linesBefore_eq_zero hline, byteInLine_eq hline, hbefore, hoffset]
  simp only [List.getLast?_singleton, hdigits]
  rw [excerpt_eq hline hne, labelLines_eq hline hbefore hescape htab, hexpression, hprinted]
  simp only [← hcorner, ← hfoot, String.append_assoc]

end DeskCalculator.Diagnostic

namespace DeskCalculator.Token

/-- The characters before the first refused one are digits, points, tokens or white space. -/
theorem FirstRefused.of_mem_before {text before : List Char} {c other : Char}
    (h : FirstRefused text before c) (hmem : other ∈ before) :
  other.isDigit ∨ (ofSymbol? other).isSome ∨ other = '.' ∨ Text.isBlank other
  := by
  rw [← flatMap_text_fragments before, List.mem_flatMap] at hmem
  obtain ⟨part, hpart, hother⟩ := hmem
  have hpartOf := (factors_fragments before).isPartOf hpart hother
  by_contra hnone
  rw [not_or, not_or, not_or] at hnone
  obtain ⟨hdigit, hsymbol, hpoint, hblank⟩ := hnone
  obtain rfl := hpartOf.other hdigit (Option.not_isSome_iff_eq_none.mp hsymbol) hpoint
  apply hblank
  apply h.isBlank_of_mem_skipped_before
  exact List.mem_filterMap.mpr ⟨_, hpart, rfl⟩

end DeskCalculator.Token

namespace DeskCalculator.CommandLine

open Text

/-! ### Explanations -/

/-- A character that is refused in a message of one line is explained by the message with the
label under the character.  The tabs before the character are spaces in the explanation; a
message without tabs is shown as it is. -/
theorem explanation_of_refused {strict : Bool} {message : String} {c : Char} {offset : Nat}
    (hline : IsLine message.toList)
    (hreply : Calculator.reply { strict } message = .error (.unexpectedCharacter c offset)) :
  ∃ front back printed, message.toList = front ++ c :: back
    ∧ Token.byteLength front = offset
    ∧ ('\t' ∉ message.toList → expandTabs front = front ∧ printed = back)
    ∧ explanation message (.unexpectedCharacter c offset)
      = Diagnostic.lineReport ⟨message, c, offset⟩ (expandTabs front) printed
  := by
  have hvalue := Calculator.value_of_reply_error hreply
  obtain ⟨-, front, hfirst, rfl⟩ := Expression.exists_firstRefused_of_value hvalue
  obtain ⟨back, hmessage⟩ := hfirst.exists_eq_append
  have hescape : '\x1b' ∉ front := by
    intro hmem
    have haccepted := hfirst.of_mem_before hmem
    revert haccepted
    decide +kernel
  have htab : c ≠ '\t' := by
    rintro rfl
    apply hfirst.not_isBlank
    decide
  have hdiagnostic : Diagnostic.ofFault? message (.unexpectedCharacter c (Token.byteLength front))
      = some ⟨message, c, Token.byteLength front⟩ := by
    have hbound := Diagnostic.offset_add_utf8Size_le_of_value hvalue
    rw [Diagnostic.ofFault?, Nat.min_eq_left (Nat.le_of_add_right_le hbound)]
  obtain ⟨printed, hprinted, hreport⟩ :=
    @Diagnostic.report_of_line ⟨message, c, Token.byteLength front⟩ front back hline hmessage rfl
      hescape htab
  refine ⟨front, back, printed, hmessage, rfl, ?_, ?_⟩
  · intro hmessageTab
    rw [hmessage, List.mem_append, List.mem_cons, not_or, not_or] at hmessageTab
    obtain ⟨hfront, -, hback⟩ := hmessageTab
    exact ⟨expandTabs_of_not_mem hfront, hprinted hback⟩
  · rw [explanation, hdiagnostic, ← hreport]

/-- A wide character behind a tab. -/
example :
  explanation "2\t＋ 3" (.unexpectedCharacter '＋' 2)
    = "stackcalc::unexpected_character\n\n"
      ++ "  × unexpected character '＋' in expression\n"
      ++ "   ╭─[input:1:3]\n"
      ++ " 1 │ 2   ＋ 3\n"
      ++ "   ·     ─┬\n"
      ++ "   ·      ╰── not part of an expression\n"
      ++ "   ╰────\n"
      ++ "  help: strict mode accepts digits, '.', + - * / ( ) and whitespace\n\n"
  := by decide +kernel

end DeskCalculator.CommandLine
