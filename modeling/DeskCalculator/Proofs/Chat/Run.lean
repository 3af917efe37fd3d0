import DeskCalculator.Proofs.Calculator
import DeskCalculator.Proofs.Chat.Lines

/-!
# Runs of a conversation

What a conversation shows for a line depends on the line alone (`converse_cons`).  Therefore lines
without a farewell are shown one after the other, and the conversation goes on with what follows
them as it would without them (`converse_append`); a farewell ends it, so that what follows
is not read.

On input with more lines behind it, a conversation shows what it shows without them up to the
end of the input, and after a farewell the two outcomes are the same (`chat_append`).
-/

namespace DeskCalculator.CommandLine

/-- The reply to the message in a line; an empty message gets none. -/
def reply? (strict : Bool) (message : String) : Option Reply :=
  if message.isEmpty then none else some (Calculator.reply { strict } message)

/-- Whether the conversation ends with an answer. -/
def isParting (answer : Option Reply) : Bool :=
  answer.any Reply.isFarewell

/-- What a conversation shows for a line: the prompt, and the reply if there is one. -/
def ChatStyle.exchange (style : ChatStyle) : Option Reply → String
  | none => style.prompt
  | some reply => style.prompt ++ style.replyText reply

theorem ChatStyle.exchange_farewell (style : ChatStyle) :
  style.exchange (some .farewell)
    = style.prompt ++ style.agent ++ " " ++ Reply.farewell.text ++ "\n" ++ "\n"
  := by
  have hcause : style.cause .farewell = "" := rfl
  simp only [exchange, replyText, hcause, String.append_empty, String.append_assoc]

/-- What a conversation shows for several lines. -/
def ChatStyle.exchanges (style : ChatStyle) (strict : Bool) (messages : List String) : String :=
  String.join (messages.map fun message => style.exchange (reply? strict message))

theorem ChatStyle.exchanges_eq (style : ChatStyle) (strict : Bool) (messages : List String) :
  style.exchanges strict messages
    = String.join ((messages.map (reply? strict)).map style.exchange)
  := by
  rw [exchanges, List.map_map]
  rfl

theorem ChatStyle.exchanges_cons (style : ChatStyle) (strict : Bool) (message : String)
    (messages : List String) :
  style.exchanges strict (message :: messages)
    = style.exchange (reply? strict message) ++ style.exchanges strict messages
  := by
  rw [exchanges, List.map_cons, String.join_cons, exchanges]

namespace Outcome

theorem after_after (output errors output' errors' : String) (outcome : Outcome) :
  after output errors (after output' errors' outcome)
    = after (output ++ output') (errors ++ errors') outcome
  := by
  rw [after, after, after, String.append_assoc, String.append_assoc]

theorem after_empty (outcome : Outcome) :
  after "" "" outcome = outcome
  := by
  rw [after, String.empty_append, String.empty_append]

end Outcome

variable {style : ChatStyle} {strict : Bool} {calculator : Calculator}

/-! ### One line -/

theorem isParting_some (reply : Reply) :
  isParting (some reply) = reply.isFarewell
  := rfl

theorem isParting_eq_true_iff {answer : Option Reply} :
  isParting answer = true ↔ answer = some .farewell
  := by
  rcases answer with _ | _ | _ | _ | _ <;> simp [isParting, Reply.isFarewell]

theorem isParting_eq_false_iff {answer : Option Reply} :
  isParting answer = false ↔ answer ≠ some .farewell
  := by
  rw [← Bool.not_eq_true, isParting_eq_true_iff]

theorem isParting_of_mem_map {messages : List String} {answer : Option Reply}
    (h : ∀ message ∈ messages, reply? strict message ≠ some .farewell)
    (hanswer : answer ∈ messages.map (reply? strict)) :
  isParting answer = false
  := by
  obtain ⟨message, hmessage, rfl⟩ := List.mem_map.mp hanswer
  apply isParting_eq_false_iff.mpr (h message hmessage)

theorem turn_bytes (line : String) :
  turn style calculator (Text.bytes line) = answer style calculator line
  := by
  have htext : textOf? (Text.bytes line) = some line := Text.fromUTF8?_bytes line
  rw [turn, htext]

theorem answer_of_nonempty (style : ChatStyle) (calculator : Calculator) {line : String}
    (h : ¬ (messageOf line).isEmpty) :
  answer style calculator line
    = { output := style.replyText (calculator.reply (messageOf line))
        errors := Event.log style.verbose
          (Event.ofReply (messageOf line) (calculator.reply (messageOf line)))
        sequel :=
          if (calculator.reply (messageOf line)).isFarewell then .finished Outcome.success
          else .next (calculator.remember (calculator.reply (messageOf line))) }
  := by
  simp only [answer, if_neg h, Calculator.respond]
  rfl

/-- A line is answered by what its message is answered on its own, and the conversation goes on
unless this is a farewell. -/
theorem converse_cons (hcalculator : calculator.reply = Calculator.reply { strict })
    (line : String) :
  ∃ errors calculator', calculator'.reply = Calculator.reply { strict } ∧ ∀ rest,
    converse style calculator (Text.bytes line :: rest)
      = Outcome.after (style.exchange (reply? strict (messageOf line))) errors
        (if isParting (reply? strict (messageOf line)) then ⟨0, "", ""⟩
          else converse style calculator' rest)
  := by
  by_cases hempty : (messageOf line).isEmpty
  · use "", calculator, hcalculator
    intro rest
    simp only [converse, turn_bytes, answer, reply?, if_pos hempty, isParting, Option.any_none,
      ChatStyle.exchange, String.append_empty]
    rfl
  · have hreply : reply? strict (messageOf line)
        = some (Calculator.reply { strict } (messageOf line)) := if_neg hempty
    have hanswer := answer_of_nonempty style calculator hempty
    rw [hcalculator] at hanswer
    have hremember := Calculator.reply_remember calculator
      (Calculator.reply { strict } (messageOf line))
    rw [hcalculator] at hremember
    generalize Calculator.reply { strict } (messageOf line) = reply at hreply hanswer hremember
    use Event.log style.verbose (Event.ofReply (messageOf line) reply),
      calculator.remember reply, hremember
    intro rest
    rw [converse, turn_bytes, hanswer, hreply, isParting_some]
    by_cases hfarewell : reply.isFarewell
    · rw [if_pos hfarewell, if_pos hfarewell]
      rfl
    · rw [if_neg hfarewell, if_neg hfarewell]
      rfl

/-! ### Several lines -/

variable {lines : List String}

/-- Lines without a farewell are shown one after the other, and the conversation goes on. -/
theorem converse_append (hcalculator : calculator.reply = Calculator.reply { strict })
    (h : ∀ line ∈ lines, isParting (reply? strict (messageOf line)) = false) :
  ∃ errors calculator', calculator'.reply = Calculator.reply { strict } ∧ ∀ rest,
    converse style calculator (lines.map Text.bytes ++ rest)
      = Outcome.after (style.exchanges strict (lines.map messageOf)) errors
        (converse style calculator' rest)
  := by
  induction lines generalizing calculator with
  | nil =>
    use "", calculator, hcalculator
    intro rest
    apply Eq.symm
    apply Outcome.after_empty
  | cons line lines ih =>
    obtain ⟨hline, hlines⟩ := List.forall_mem_cons.mp h
    obtain ⟨errors, calculator₁, hreply, hconverse⟩ :=
      @converse_cons style strict calculator hcalculator line
    obtain ⟨errors', calculator₂, hreply', hconverse'⟩ := ih hreply hlines
    use errors ++ errors', calculator₂, hreply'
    intro rest
    rw [List.map_cons, List.cons_append, hconverse, hline, if_neg Bool.false_ne_true, hconverse',
      Outcome.after_after, List.map_cons, ChatStyle.exchanges_cons]

/-- A farewell behind lines without one ends the conversation. -/
theorem converse_append_farewell (hcalculator : calculator.reply = Calculator.reply { strict })
    (h : ∀ line ∈ lines, isParting (reply? strict (messageOf line)) = false) {line : String}
    (hline : reply? strict (messageOf line) = some .farewell) :
  ∃ errors, ∀ rest,
    converse style calculator (lines.map Text.bytes ++ Text.bytes line :: rest)
      = ⟨0, style.exchanges strict (lines.map messageOf) ++ style.exchange (some .farewell),
        errors⟩
  := by
  obtain ⟨errors, calculator₁, hreply, hconverse⟩ :=
    @converse_append style strict calculator lines hcalculator h
  obtain ⟨errors', calculator₂, hreply', hconverse'⟩ :=
    @converse_cons style strict calculator₁ hreply line
  use errors ++ errors'
  intro rest
  have hparting : isParting (some .farewell) = true := rfl
  rw [hconverse, hconverse', hline, hparting, if_pos rfl, Outcome.after_after, Outcome.after,
    String.append_empty, String.append_empty]

/-- A conversation shows a prompt before anything else. -/
theorem exists_output_converse (style : ChatStyle) (calculator : Calculator)
    (lines : List (List UInt8)) :
  ∃ more, (converse style calculator lines).output = style.prompt ++ more
  := by
  cases lines with
  | nil => exact ⟨_, rfl⟩
  | cons line rest =>
    rw [converse, Outcome.after]
    simp only [String.append_assoc]
    exact ⟨_, rfl⟩

/-! ### The input -/

/-- A conversation reads the lines of its input, and nothing behind them. -/
theorem chat_eq (style : ChatStyle) (strict : Bool) (input : List UInt8) :
  chat style strict input
    = Outcome.after style.opening "" (converse style { strict } (inputLines input ++ []))
  := by
  rw [chat, List.append_nil]

/-- Input without a farewell is shown, and the conversation goes on with what follows. -/
theorem chat_of_no_farewell {text : String}
    (h : ∀ message ∈ trimmedLines text, reply? strict message ≠ some .farewell) :
  ∃ errors calculator, ∀ rest,
    Outcome.after style.opening "" (converse style { strict }
        (inputLines (Text.bytes text) ++ rest))
      = Outcome.after (style.opening ++ style.exchanges strict (trimmedLines text)) errors
        (converse style calculator rest)
  := by
  have hlines : ∀ line ∈ inputTexts text, isParting (reply? strict (messageOf line)) = false := by
    intro line hline
    apply isParting_eq_false_iff.mpr (h _ _)
    rw [← map_messageOf_inputTexts]
    apply List.mem_map_of_mem hline
  obtain ⟨errors, calculator, -, hconverse⟩ :=
    @converse_append style strict { strict } (inputTexts text) rfl hlines
  use errors, calculator
  intro rest
  rw [inputLines_bytes, hconverse, Outcome.after_after, map_messageOf_inputTexts,
    String.empty_append]

/-- The first line of a text that is answered by a farewell. -/
theorem exists_first_farewell {text : String}
    (h : ∃ message ∈ trimmedLines text, reply? strict message = some .farewell) :
  ∃ front line back, inputTexts text = front ++ line :: back
    ∧ (∀ other ∈ front, isParting (reply? strict (messageOf other)) = false)
    ∧ reply? strict (messageOf line) = some .farewell
  := by
  obtain ⟨message, hmessage, hreply⟩ := h
  rw [← map_messageOf_inputTexts] at hmessage
  obtain ⟨parting, hparting, rfl⟩ := List.mem_map.mp hmessage
  have hsome : ((inputTexts text).find? fun line =>
      isParting (reply? strict (messageOf line))).isSome := by
    rw [List.find?_isSome]
    exact ⟨parting, hparting, isParting_eq_true_iff.mpr hreply⟩
  obtain ⟨line, hline⟩ := Option.isSome_iff_exists.mp hsome
  obtain ⟨hfarewell, front, back, hlines, hfront⟩ := List.find?_eq_some_iff_append.mp hline
  refine ⟨front, line, back, hlines, ?_, isParting_eq_true_iff.mp hfarewell⟩
  intro other hother
  simpa using hfront other hother

/-- Input with a farewell is shown up to the farewell, and what follows is not read. -/
theorem chat_of_farewell {text : String}
    (h : ∃ message ∈ trimmedLines text, reply? strict message = some .farewell) :
  ∃ front message back errors, trimmedLines text = front ++ message :: back
    ∧ (∀ other ∈ front, reply? strict other ≠ some .farewell)
    ∧ reply? strict message = some .farewell
    ∧ ∀ rest, Outcome.after style.opening "" (converse style { strict }
          (inputLines (Text.bytes text) ++ rest))
        = ⟨0, style.opening ++ style.exchanges strict front ++ style.exchange (some .farewell),
          errors⟩
  := by
  obtain ⟨front, line, back, hlines, hfront, hline⟩ := exists_first_farewell h
  obtain ⟨errors, hconverse⟩ :=
    @converse_append_farewell style strict { strict } front rfl hfront line hline
  use front.map messageOf, messageOf line, back.map messageOf, errors
  refine ⟨?_, ?_, hline, ?_⟩
  · rw [← map_messageOf_inputTexts, hlines, List.map_append, List.map_cons]
  · intro message hmessage
    obtain ⟨other, hother, rfl⟩ := List.mem_map.mp hmessage
    apply isParting_eq_false_iff.mp (hfront other hother)
  · intro rest
    rw [inputLines_bytes, hlines, List.map_append, List.map_cons, List.append_assoc,
      List.cons_append, hconverse, Outcome.after, String.empty_append, String.append_assoc]

/-- More input behind the lines of a text.  Without a farewell, what the conversation shows for the
text alone, up to the line feed at the end of the input, stands at the beginning of what it shows
for all the input.  With a farewell, the outcome is the same whatever follows the text; it succeeds
and ends with the first farewell and an empty line. -/
theorem chat_append (style : ChatStyle) (strict : Bool) {before : List UInt8} {text : String}
    (htext : textOf? before = some text) (hend : ∀ byte ∈ before.getLast?, byte = 10) :
  ((∀ message ∈ trimmedLines text, reply? strict message ≠ some .farewell) →
      ∃ shown, (chat style strict before).output = shown ++ "\n"
        ∧ ∀ after, ∃ more, (chat style strict (before ++ after)).output = shown ++ more)
    ∧ ((∃ message ∈ trimmedLines text, reply? strict message = some .farewell) →
      ∃ front message back errors, trimmedLines text = front ++ message :: back
        ∧ (∀ other ∈ front, reply? strict other ≠ some .farewell)
        ∧ reply? strict message = some .farewell
        ∧ ∀ after, chat style strict (before ++ after)
          = { exitCode := 0
              output := style.opening ++ style.exchanges strict front ++ style.prompt
                ++ style.agent ++ " " ++ Reply.farewell.text ++ "\n" ++ "\n"
              errors })
  := by
  obtain rfl := Text.bytes_of_fromUTF8? htext
  have hlines := inputLines_append hend
  constructor
  · intro h
    obtain ⟨errors, calculator, hchat⟩ := @chat_of_no_farewell style strict text h
    use style.opening ++ style.exchanges strict (trimmedLines text) ++ style.prompt
    constructor
    · rw [chat_eq, hchat, Outcome.after, converse]
      simp only [lastTurn, String.append_assoc]
    · intro after
      obtain ⟨more, hmore⟩ := exists_output_converse style calculator (inputLines after)
      use more
      rw [chat, hlines, hchat, Outcome.after]
      simp only [hmore, String.append_assoc]
  · intro h
    obtain ⟨front, message, back, errors, htrimmed, hfront, hmessage, hchat⟩ :=
      @chat_of_farewell style strict text h
    use front, message, back, errors, htrimmed, hfront, hmessage
    intro after
    rw [chat, hlines, hchat, style.exchange_farewell]
    simp only [String.append_assoc]

/-- The output of a conversation that begins with a farewell. -/
def farewellTranscript : String :=
  "Agent 🤖: Hello! I am your Stack-Based AI Calculator.\n"
    ++ "Try: 10 + 5 * 3 or ( 8 + 2 ) * 5\n\n"
    ++ "You 🙂: Agent 🤖: Byeee 👋\n\n"

/-- Behind a greeting the conversation goes on, and behind a farewell it does not. -/
theorem chat_append_of_greeting_and_of_farewell :
  (∃ shown, (chat (.plain false) false (Text.bytes "hi\n")).output = shown ++ "\n"
      ∧ ∀ after, ∃ more,
        (chat (.plain false) false (Text.bytes "hi\n" ++ after)).output = shown ++ more)
    ∧ ∃ errors, ∀ after, chat (.plain true) true (Text.bytes "bye\n" ++ after)
      = { exitCode := 0
          output := farewellTranscript
          errors }
  := by
  constructor
  · have hend : ∀ byte ∈ (Text.bytes "hi\n").getLast?, byte = 10 := by
      rintro _ ⟨⟩
      rfl
    have hgreeting : ∀ message ∈ trimmedLines "hi\n", reply? false message ≠ some .farewell := by
      decide +kernel
    apply (chat_append (.plain false) false (Text.fromUTF8?_bytes _) hend).1 hgreeting
  · have hend : ∀ byte ∈ (Text.bytes "bye\n").getLast?, byte = 10 := by
      rintro _ ⟨⟩
      rfl
    have htrimmed : trimmedLines "bye\n" = ["bye"] := by decide +kernel
    have hfarewell : ∃ message ∈ trimmedLines "bye\n", reply? true message = some .farewell := by
      decide +kernel
    obtain ⟨front, message, back, errors, hlines, -, -, hchat⟩ :=
      (chat_append (.plain true) true (Text.fromUTF8?_bytes _) hend).2 hfarewell
    obtain rfl : front = [] := by
      cases front with
      | nil => rfl
      | cons first front => simp [htrimmed] at hlines
    have houtput : (ChatStyle.plain true).opening ++ (ChatStyle.plain true).exchanges true []
        ++ (ChatStyle.plain true).prompt ++ (ChatStyle.plain true).agent ++ " "
        ++ Reply.farewell.text ++ "\n" ++ "\n"
          = farewellTranscript := by
      decide +kernel
    use errors
    intro after
    rw [hchat, houtput]

end DeskCalculator.CommandLine
