import DeskCalculator.Proofs.Chat.Batch
import DeskCalculator.Proofs.Table

/-!
# The table of a batch

The table of a batch has one line for each message of the file.  Its cells come from two sides: the
postfix order from a reading of the message, and the result from the reply of the calculator.  They
tell the same outcome (`cellsAgree`), and so do the line below the table and the exit code
(`batch_table_agrees`).
-/

namespace DeskCalculator

/-! ### Cells without line feeds -/

theorem Fault.IsSpaced.lineFeed_not_mem {chars : List Char} (h : IsSpaced chars) :
  '\n' ∉ chars
  := by
  intro hmem
  have hspace := h '\n' hmem (by decide)
  revert hspace
  decide

/-- A number is written on one line if the texts for what is no finite number are. -/
theorem Layout.lineFeed_not_mem_text {layout : Layout}
    (h : ∀ other ∈ [layout.undefined, layout.infinity.1, layout.infinity.2], '\n' ∉ other.toList)
    (x : Float) :
  '\n' ∉ (layout.text x).toList
  := by
  obtain hnumeral | hother := layout.isNumeral_or_eq_of_text x
  · intro hmem
    have hfeed := hnumeral '\n' hmem
    revert hfeed
    decide
  · apply h _ hother

/-- A list of tokens is written on one line. -/
theorem Token.lineFeed_not_mem_listText (tokens : List Token) :
  '\n' ∉ (listText tokens).toList
  := by
  have htoken : ∀ token : Token, '\n' ∉ token.text.toList := by
    intro token
    cases token with
    | number x => apply Layout.lineFeed_not_mem_text (by decide)
    | operator op => cases op <;> decide
    | opening => decide
    | closing => decide
  rw [listText, String.toList_intercalate]
  apply Text.not_mem_intercalate (by decide)
  rw [List.map_map]
  exact List.forall_mem_map.mpr fun token _ => htoken token

namespace CommandLine

variable {strict : Bool} {text message : String}

/-- A message of a text is written on one line. -/
theorem lineFeed_not_mem_of_mem_messagesOf (h : message ∈ messagesOf text) :
  '\n' ∉ message.toList
  := by
  obtain ⟨trimmed, htrimmed, rfl⟩ := List.mem_map.mp h
  obtain ⟨line, hline, rfl⟩ := List.mem_map.mp (List.mem_of_mem_filter htrimmed)
  rw [String.toList_ofList]
  exact fun hmem => Text.lineFeed_not_mem_of_mem_shownLines hline (Text.mem_of_mem_trim hmem)

/-- The postfix order of a message is written on one line. -/
theorem lineFeed_not_mem_reordered (strict : Bool) (message : String) :
  '\n' ∉ (reordered strict message).toList
  := by
  rw [reordered]
  split
  · apply Token.lineFeed_not_mem_listText
  · decide

/-- The result cell of a reply is written on one line. -/
theorem lineFeed_not_mem_resultCell (calculator : Calculator) (message : String) :
  '\n' ∉ (resultCell (calculator.reply message)).toList
  := by
  cases hreply : calculator.reply message with
  | greeting => decide
  | farewell => decide
  | result x => apply Layout.lineFeed_not_mem_text (by decide)
  | error fault =>
    have hmessage := (Calculator.isSpaced_message_of_reply hreply).lineFeed_not_mem
    rw [resultCell, String.toList_append, List.mem_append, not_or]
    exact ⟨by decide, hmessage⟩

/-! ### Cells of one message -/

/-- The cells behind a message that is evaluated tell the same outcome. -/
structure CellsAgree (strict : Bool) (message order result : String) : Prop where
  /-- A message that a strict batch refuses has no postfix order, and its result is the character
  that is refused. -/
  refused : ∀ fault, strict = true → Token.scanStrict message = .error fault →
    order = "-" ∧ result = "error: " ++ fault.message
      ∧ ∃ c offset, fault = .unexpectedCharacter c offset
  /-- The result of another message is the outcome of the tokens in the postfix order. -/
  evaluated : (strict = true → ∃ read, Token.scanStrict message = .ok read) →
    ∃ tokens, order = Token.listText tokens
      ∧ ((∃ x, Postfix.value tokens = .ok x ∧ result = Layout.result.text x)
        ∨ ∃ fault, Postfix.value tokens = .error fault ∧ result = "error: " ++ fault.message)

/-- The postfix order that is read from a message agrees with the outcome of its evaluation. -/
theorem cellsAgree (strict : Bool) (message : String) :
  CellsAgree strict message (reordered strict message)
    (resultCell (Reply.ofValue (Expression.value strict message)))
  := by
  constructor
  · rintro fault rfl hrefused
    have htokens : Expression.tokens true message = .error fault := hrefused
    obtain ⟨before, c, -, hfault⟩ := Token.exists_firstRefused_of_scanCharsStrict hrefused
    rw [reordered, Expression.value, htokens]
    exact ⟨rfl, rfl, c, _, hfault⟩
  · intro hread
    obtain ⟨read, htokens⟩ : ∃ read, Expression.tokens strict message = .ok read := by
      cases strict with
      | false => exact ⟨_, rfl⟩
      | true => apply hread rfl
    have hvalue : Expression.value strict message = Postfix.value (Postfix.ofTokens read) := by
      rw [Expression.value, htokens]
      rfl
    use Postfix.ofTokens read
    rw [reordered, htokens, hvalue]
    use rfl
    cases Postfix.value (Postfix.ofTokens read) with
    | ok x => exact Or.inl ⟨x, rfl, rfl⟩
    | error fault => exact Or.inr ⟨fault, rfl, rfl⟩

/-! ### The table -/

/-- The line below the table. -/
def tally (expressions failed : Nat) : String :=
  toString expressions ++ " expressions, " ++ toString failed ++ " failed"

theorem lineFeed_not_mem_tally (expressions failed : Nat) :
  '\n' ∉ (tally expressions failed).toList
  := by
  have hdigits : ∀ n : Nat, '\n' ∉ Nat.toDigits 10 n := fun n =>
    (Fault.isSpaced_toDigits n).lineFeed_not_mem
  simp [tally, hdigits]

/-- The rows of a table of results have a cell for each column. -/
theorem length_of_mem_rows {answered : List (String × Reply)} {cells : List String}
    (h : cells ∈ (resultTable strict answered).rows) :
  cells.length = (resultTable strict answered).heading.length
  := by
  obtain ⟨_, -, rfl⟩ := List.mem_map.mp h
  rfl

/-- The output of a batch is the table, an empty line and the line below. -/
theorem lines_batchOutput {answered : List (String × Reply)}
    (h : ∀ cells ∈ (resultTable strict answered).rows, ∀ cell ∈ cells, '\n' ∉ cell.toList) :
  Text.lines (batchOutput strict false answered).toList
    = ((resultTable strict answered).lines
        ++ ["", tally answered.length (failures (answered.map Prod.snd))]).map String.toList
  := by
  generalize hbelow : tally answered.length (failures (answered.map Prod.snd)) = below
  have houtput : batchOutput strict false answered
      = (resultTable strict answered).text ++ "\n" ++ ("\n" ++ below ++ "\n") := by
    rw [batchOutput, if_neg Bool.false_ne_true, ← hbelow, tally]
    apply String.toList_injective
    simp
  have hfeed : '\n' ∉ below.toList := by
    rw [← hbelow]
    apply lineFeed_not_mem_tally
  have hend : Text.lines ("\n" ++ below ++ "\n").toList = [[], below.toList] := by
    have hchars : ("\n" ++ below ++ "\n").toList = [] ++ '\n' :: (below.toList ++ '\n' :: []) := by
      simp
    rw [hchars, Text.lines_append_lineFeed_cons List.not_mem_nil,
      Text.lines_append_lineFeed_cons hfeed]
    rfl
  have hheading : ∀ cell ∈ (resultTable strict answered).heading, '\n' ∉ cell.toList := by
    have hcells : ∀ cell ∈ ["Expression", "Postfix", "Result"], '\n' ∉ cell.toList := by decide
    exact hcells
  rw [houtput, Table.lines_text_append (fun _ => length_of_mem_rows)
    (List.forall_mem_cons.mpr ⟨hheading, h⟩), hend, List.map_append]
  rfl

/-- The cells in the table of a batch are written on one line. -/
theorem lineFeed_not_mem_of_mem_rows {cells : List String} {cell : String}
    (hcells : cells ∈ (resultTable strict (answered strict text)).rows) (hcell : cell ∈ cells) :
  '\n' ∉ cell.toList
  := by
  obtain ⟨_, hmem, rfl⟩ := List.mem_map.mp hcells
  obtain ⟨message, hmessage, rfl⟩ := List.mem_map.mp hmem
  simp only [List.mem_cons, List.not_mem_nil, or_false] at hcell
  obtain rfl | rfl | rfl := hcell
  · apply lineFeed_not_mem_of_mem_messagesOf hmessage
  · apply lineFeed_not_mem_reordered
  · apply lineFeed_not_mem_resultCell

/-- A batch prints a table, an empty line and a closing line.  The table has one row for each
message, in the order of the file, and its line shows all of its cells.  The cells of a message that
is no greeting and no farewell tell one outcome.  The closing line counts the rows and the replies
that are errors, and the batch fails exactly if there are any. -/
theorem batch_table_agrees (verbose strict : Bool) (file text : String) :
  ∃ (replies : List Reply) (rows : List (List String)) (widths : List Nat),
    replies = Calculator.respondAll { strict } (messagesOf text)
      ∧ replies.length = (messagesOf text).length
      ∧ rows.length = (messagesOf text).length
      ∧ Text.lines (batch verbose strict false file (.ok (Text.bytes text))).output.toList
        = ([Table.rule '┌' '─' '┐' widths,
              Table.row widths ["Expression", "Postfix", "Result"],
              Table.rule '╞' '═' '╡' widths]
            ++ rows.map (Table.row widths)
            ++ [Table.rule '└' '─' '┘' widths,
              "",
              tally rows.length (replies.countP Reply.isError)]).map String.toList
      ∧ (∀ cells ∈ rows, Table.Shows (Table.row widths cells) cells)
      ∧ (∀ (i : Nat) (message : String) (reply : Reply),
          (messagesOf text)[i]? = some message → replies[i]? = some reply →
            ∃ order result, rows[i]? = some [message, order, result]
              ∧ (reply ≠ .greeting → reply ≠ .farewell → CellsAgree strict message order result))
      ∧ (batch verbose strict false file (.ok (Text.bytes text))).exitCode
        = if 0 < replies.countP Reply.isError then 65 else 0
  := by
  have hreplies : Calculator.respondAll { strict } (messagesOf text)
      = (messagesOf text).map (Calculator.reply { strict }) :=
    Calculator.respondAll_eq_map _ _
  have hrows : (resultTable strict (answered strict text)).rows
      = (messagesOf text).map fun message =>
        [message, reordered strict message, resultCell (Calculator.reply { strict } message)] :=
    List.map_map
  have hlength : (resultTable strict (answered strict text)).rows.length
      = (answered strict text).length := List.length_map _
  have hshown : (answered strict text).map Prod.snd
      = (messagesOf text).map (Calculator.reply { strict }) := List.map_map
  refine ⟨_, (resultTable strict (answered strict text)).rows,
    (resultTable strict (answered strict text)).widths, hreplies.symm, ?_, ?_, ?_, ?_, ?_, ?_⟩
  · apply List.length_map
  · rw [hrows, List.length_map]
  · rw [batch_output, lines_batchOutput fun _ h _ => lineFeed_not_mem_of_mem_rows h, hlength,
      hshown, Table.lines, List.append_assoc]
    rfl
  · intro cells hcells
    apply Table.shows_row
    rw [Table.length_widths (fun _ => length_of_mem_rows), length_of_mem_rows hcells]
  · intro i message reply hmessage hreply
    rw [List.getElem?_map, hmessage] at hreply
    obtain rfl := Option.some.inj hreply
    refine ⟨reordered strict message, resultCell (Calculator.reply { strict } message), ?_, ?_⟩
    · rw [hrows, List.getElem?_map, hmessage]
      rfl
    · intro hgreeting hfarewell
      obtain h | h | h := Calculator.reply_cases { strict } message
      · exact absurd h hgreeting
      · exact absurd h hfarewell
      · rw [h]
        apply cellsAgree
  · rw [batch, decode_bytes, ← hreplies, ← expressions_eq_messagesOf]
    rfl

/-- A file with a comment, a character between two numbers, a greeting and a division by zero. -/
def refusalAmongRows : String :=
  "# sums\r\n 2 x 3\r\nhi\n4 / 0"

/-- The comment has no row, the refused character stands in the first one, and the greeting is not
counted among the errors. -/
theorem batch_table_agrees_of_refusal :
  messagesOf refusalAmongRows = ["2 x 3", "hi", "4 / 0"]
    ∧ ∃ rows widths : List _, rows.length = 3
      ∧ rows[0]? = some ["2 x 3", "-", "error: unexpected character 'x' at offset 2"]
      ∧ (Text.lines (batch false true false "sums"
          (.ok (Text.bytes refusalAmongRows))).output.toList)[3]?
        = some (Table.row widths
          ["2 x 3", "-", "error: unexpected character 'x' at offset 2"]).toList
      ∧ (Text.lines (batch false true false "sums"
          (.ok (Text.bytes refusalAmongRows))).output.toList)[8]?
        = some "3 expressions, 2 failed".toList
      ∧ (batch false true false "sums" (.ok (Text.bytes refusalAmongRows))).exitCode = 65
  := by
  have hmessages : messagesOf refusalAmongRows = ["2 x 3", "hi", "4 / 0"] := by decide +kernel
  have hreplies : Calculator.respondAll { strict := true } ["2 x 3", "hi", "4 / 0"]
      = [.error (.unexpectedCharacter 'x' 2), .greeting, .error .divisionByZero] := by
    decide +kernel
  have hrefused : Token.scanStrict "2 x 3" = .error (.unexpectedCharacter 'x' 2) := by
    decide +kernel
  obtain ⟨_, rows, widths, rfl, -, hlength, hlines, -, hcells, hexit⟩ :=
    batch_table_agrees false true "sums" refusalAmongRows
  rw [hmessages, hreplies] at hcells
  rw [hmessages] at hlength
  rw [hmessages, hreplies, hlength] at hlines
  rw [hmessages, hreplies] at hexit
  obtain ⟨order, result, hrow, hagree⟩ := hcells 0 _ _ rfl rfl
  obtain ⟨rfl, rfl, -⟩ := (hagree (by decide) (by decide)).refused _ rfl hrefused
  refine ⟨hmessages, rows, widths, hlength, hrow, ?_, ?_, hexit⟩
  · rw [hlines]
    obtain ⟨later, rfl⟩ : ∃ later, rows
        = ["2 x 3", "-", "error: unexpected character 'x' at offset 2"] :: later := by
      obtain ⟨first, later, rfl⟩ := List.exists_cons_of_length_eq_add_one hlength
      exact ⟨later, congrArg (· :: later) (Option.some.inj hrow)⟩
    rfl
  · have htally : tally 3 2 = "3 expressions, 2 failed" := by decide +kernel
    obtain ⟨first, second, third, rfl⟩ := List.length_eq_three.mp hlength
    rw [hlines, ← htally]
    rfl

end CommandLine

end DeskCalculator
