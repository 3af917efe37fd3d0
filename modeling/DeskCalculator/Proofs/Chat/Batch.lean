import DeskCalculator.Proofs.Batch
import DeskCalculator.Proofs.Chat.Run
import DeskCalculator.Proofs.Fault
import DeskCalculator.Proofs.Outcome
import DeskCalculator.Proofs.Token.Refusal

/-!
# Conversations and batches

A conversation about the lines of a text gives the replies of a batch over them, up to and
including the first farewell, where the text has no line that only the batch passes over
(`chat_eq_batch`).  A verbose conversation shows one more line below each error, the cause of the
error, which is one line since no cause has other white space than spaces
(`isSpaced_message_of_reply`).
-/

namespace DeskCalculator

/-! ### Causes -/

/-- The cause of an error stands on one line. -/
theorem Calculator.isSpaced_message_of_reply {calculator : Calculator} {message : String}
    {fault : Fault} (h : calculator.reply message = .error fault) :
  Fault.IsSpaced fault.message.toList
  := by
  apply Fault.isSpaced_message
  rintro c offset rfl
  obtain ⟨-, before, hfirst, -⟩ :=
    Expression.exists_firstRefused_of_value (value_of_reply_error h)
  apply hfirst.not_isBlank

namespace CommandLine

variable {strict : Bool} {text : String}

/-! ### Answers -/

/-- The elements of a list up to and including the first one with a property. -/
def through {α : Type} (p : α → Bool) (list : List α) : List α :=
  list.take (list.findIdx p + 1)

theorem through_cons {α : Type} (p : α → Bool) (a : α) (rest : List α) :
  through p (a :: rest) = if p a then [a] else a :: through p rest
  := by
  rw [through, List.findIdx_cons]
  cases p a with
  | false => rfl
  | true => rfl

/-- Nothing behind the first element with a property is taken. -/
theorem through_append_cons {α : Type} {p : α → Bool} {front : List α} {a : α} (back : List α)
    (hfront : ∀ b ∈ front, p b = false) (ha : p a) :
  through p (front ++ a :: back) = front ++ [a]
  := by
  induction front with
  | nil => rw [List.nil_append, through_cons, if_pos ha, List.nil_append]
  | cons b front ih =>
    obtain ⟨hb, hfront⟩ := List.forall_mem_cons.mp hfront
    rw [List.cons_append, through_cons, hb, if_neg Bool.false_ne_true, ih hfront,
      List.cons_append]

/-- Without an element with the property, all elements are taken. -/
theorem through_eq_self {α : Type} {p : α → Bool} {list : List α} (h : ∀ a ∈ list, p a = false) :
  through p list = list
  := by
  induction list with
  | nil => rfl
  | cons a rest ih =>
    obtain ⟨ha, hrest⟩ := List.forall_mem_cons.mp h
    rw [through_cons, ha, if_neg Bool.false_ne_true, ih hrest]

/-- The answers that a conversation gives to the lines of a text. -/
def answers (strict : Bool) (text : String) : List (Option Reply) :=
  through isParting ((trimmedLines text).map (reply? strict))

/-- The replies among answers up to a farewell are the replies up to a farewell. -/
theorem filterMap_through (lines : List (Option Reply)) :
  (through isParting lines).filterMap id = through Reply.isFarewell (lines.filterMap id)
  := by
  induction lines with
  | nil => rfl
  | cons answer lines ih =>
    cases answer with
    | none =>
      have hparting : ¬ isParting none := Bool.false_ne_true
      rw [through_cons, if_neg hparting]
      apply ih
    | some reply =>
      have hsome : (some reply :: lines).filterMap id = reply :: lines.filterMap id := rfl
      rw [hsome, through_cons, through_cons, isParting_some]
      by_cases hfarewell : reply.isFarewell
      · rw [if_pos hfarewell, if_pos hfarewell]
        rfl
      · rw [if_neg hfarewell, if_neg hfarewell, ← ih]
        rfl

theorem reply?_ofList {line : List Char} (h : line ≠ []) :
  reply? strict (String.ofList line) = some (Calculator.reply { strict } (String.ofList line))
  := by
  apply if_neg
  rw [String.isEmpty_iff, String.ofList_eq_empty_iff]
  apply h

/-- The messages of a text without comments are its lines that are not empty. -/
theorem filterMap_reply? (h : ∀ message ∈ trimmedLines text, message.toList.head? ≠ some '#') :
  ((trimmedLines text).map (reply? strict)).filterMap id
    = Calculator.respondAll { strict } (messagesOf text)
  := by
  rw [Calculator.respondAll_eq_map]
  rw [trimmedLines] at h ⊢
  rw [messagesOf]
  generalize (Text.shownLines text.toList).map Text.trim = lines at h ⊢
  induction lines with
  | nil => rfl
  | cons line lines ih =>
    rw [List.map_cons] at h
    obtain ⟨hline, hlines⟩ := List.forall_mem_cons.mp h
    rw [String.toList_ofList] at hline
    by_cases hempty : line = []
    · subst hempty
      apply ih hlines
    · have hkept : decide (line ≠ [] ∧ line.head? ≠ some '#') = true :=
        decide_eq_true ⟨hempty, hline⟩
      rw [List.filter_cons, if_pos hkept, List.map_cons, List.map_cons, List.map_cons,
        List.map_cons, reply?_ofList hempty, ← ih hlines]
      rfl

/-! ### Transcripts -/

/-- A line with the cause of an error; nothing below the other replies. -/
def causeLine : Reply → String
  | .error fault => "  (" ++ fault.message ++ ")\n"
  | _ => ""

/-- A prompt, and the reply if there is one, with a text right below it and an empty line. -/
def shownAnswer (agent user : String) (below : Reply → String) : Option Reply → String
  | none => user ++ " "
  | some reply => user ++ " " ++ agent ++ " " ++ reply.text ++ "\n" ++ below reply ++ "\n"

/-- The welcome, the answers one after the other, and a last prompt unless there was a farewell. -/
def transcript (agent user : String) (below : Reply → String) (answers : List (Option Reply)) :
    String :=
  agent ++ " " ++ welcome ++ "\n\n" ++ String.join (answers.map (shownAnswer agent user below))
    ++ if some .farewell ∈ answers then "" else user ++ " " ++ "\n"

theorem exchange_eq_shownAnswer (agent user : String) (verbose : Bool) :
  (ChatStyle.mk agent user verbose).exchange
    = shownAnswer agent user (if verbose then causeLine else fun _ => "")
  := by
  funext answer
  cases answer with
  | none => rfl
  | some reply =>
    have hcause : (ChatStyle.mk agent user verbose).cause reply
        = (if verbose then causeLine else fun _ => "") reply := by
      cases verbose <;> cases reply <;> rfl
    simp only [ChatStyle.exchange, ChatStyle.replyText, ChatStyle.prompt, hcause, shownAnswer,
      String.append_assoc]

/-- A conversation about a text shows the answers to its lines. -/
theorem chat_eq_transcript (agent user : String) (verbose strict : Bool) (text : String) :
  ∃ errors, chat ⟨agent, user, verbose⟩ strict (Text.bytes text)
    = { exitCode := 0
        output := transcript agent user (if verbose then causeLine else fun _ => "")
          (answers strict text)
        errors }
  := by
  rw [transcript, ← exchange_eq_shownAnswer, answers]
  by_cases h : ∃ message ∈ trimmedLines text, reply? strict message = some .farewell
  · obtain ⟨front, message, back, errors, htrimmed, hfront, hmessage, hchat⟩ :=
      @chat_of_farewell ⟨agent, user, verbose⟩ strict text h
    have hparting : ∀ answer ∈ front.map (reply? strict), isParting answer = false :=
      fun _ hanswer => isParting_of_mem_map hfront hanswer
    have hthrough : through isParting ((trimmedLines text).map (reply? strict))
        = front.map (reply? strict) ++ [some .farewell] := by
      rw [htrimmed, List.map_append, List.map_cons, hmessage]
      apply through_append_cons _ hparting rfl
    use errors
    rw [chat_eq, hchat, hthrough, List.map_append, List.map_singleton, String.join_append,
      String.join_cons, String.join_nil, ChatStyle.exchanges_eq,
      if_pos (List.mem_append_right _ List.mem_cons_self)]
    simp only [ChatStyle.opening, String.append_empty, String.append_assoc]
  · push Not at h
    obtain ⟨errors, calculator, hchat⟩ :=
      @chat_of_no_farewell ⟨agent, user, verbose⟩ strict text h
    have hparting : ∀ answer ∈ (trimmedLines text).map (reply? strict),
        isParting answer = false := fun _ hanswer => isParting_of_mem_map h hanswer
    have hnone : some .farewell ∉ (trimmedLines text).map (reply? strict) := by
      intro hmem
      cases hparting _ hmem
    use errors
    rw [chat_eq, hchat, through_eq_self hparting, if_neg hnone, Outcome.after, converse,
      ChatStyle.exchanges_eq]
    simp only [ChatStyle.opening, ChatStyle.prompt, lastTurn, String.append_empty,
      String.append_assoc]
    rfl

/-! ### Conversations and batches -/

/-- A reply in a conversation is a reply to one of the lines. -/
theorem exists_message_of_mem_answers {reply : Reply} (h : some reply ∈ answers strict text) :
  ∃ message, Calculator.reply { strict } message = reply
  := by
  obtain ⟨message, -, hreply⟩ := List.mem_map.mp (List.mem_of_mem_take h)
  use message
  rw [reply?] at hreply
  split at hreply
  · cases hreply
  · apply Option.some.inj hreply

/-- A conversation about a text without comments succeeds.  Its replies are those of a batch over
the text up to and including the first farewell; a line that is empty but for white space gets a
prompt only.  In a verbose conversation there is one more line right below each error, its
cause, and no cause has other white space than spaces. -/
theorem chat_eq_batch (agent user : String) (strict : Bool) {text : String}
    (h : ∀ message ∈ trimmedLines text, message.toList.head? ≠ some '#') :
  (∀ verbose json file, (batch verbose strict json file (.ok (Text.bytes text))).output
      = batchOutput strict json
        ((messagesOf text).zip (Calculator.respondAll { strict } (messagesOf text))))
    ∧ (answers strict text).filterMap id
      = through Reply.isFarewell (Calculator.respondAll { strict } (messagesOf text))
    ∧ (∀ verbose, (chat ⟨agent, user, verbose⟩ strict (Text.bytes text)).exitCode = 0)
    ∧ (chat ⟨agent, user, false⟩ strict (Text.bytes text)).output
      = transcript agent user (fun _ => "") (answers strict text)
    ∧ (chat ⟨agent, user, true⟩ strict (Text.bytes text)).output
      = transcript agent user causeLine (answers strict text)
    ∧ ∀ fault, some (.error fault) ∈ answers strict text →
      ∀ c ∈ fault.message.toList, Text.isBlank c → c = ' '
  := by
  refine ⟨?_, ?_, ?_, ?_, ?_, ?_⟩
  · intro verbose json file
    rw [batch, decode_bytes, ← expressions_eq_messagesOf]
  · rw [answers, filterMap_through, filterMap_reply? h]
  · intro verbose
    obtain ⟨errors, hchat⟩ := chat_eq_transcript agent user verbose strict text
    rw [hchat]
  · obtain ⟨errors, hchat⟩ := chat_eq_transcript agent user false strict text
    rw [hchat, if_neg Bool.false_ne_true]
  · obtain ⟨errors, hchat⟩ := chat_eq_transcript agent user true strict text
    rw [hchat, if_pos rfl]
  · intro fault hfault
    obtain ⟨message, hreply⟩ := exists_message_of_mem_answers hfault
    apply Calculator.isSpaced_message_of_reply hreply

/-- A text with a refused character, a blank line, and a farewell before a last line. -/
def refusalAndFarewell : String :=
  "1 + x\r\n\t\r\n bye \n2"

/-- The refused character is answered with its cause below, the blank line with a prompt, and the
line behind the farewell is left to the batch. -/
theorem chat_eq_batch_of_refusal_and_farewell :
  (∀ verbose json file, (batch verbose true json file (.ok (Text.bytes refusalAndFarewell))).output
      = batchOutput true json [("1 + x", .error (.unexpectedCharacter 'x' 4)),
        ("bye", .farewell), ("2", .result 2)])
    ∧ (chat (.plain true) true (Text.bytes refusalAndFarewell)).exitCode = 0
    ∧ (chat (.plain true) true (Text.bytes refusalAndFarewell)).output
      = "Agent 🤖: Hello! I am your Stack-Based AI Calculator.\n"
        ++ "Try: 10 + 5 * 3 or ( 8 + 2 ) * 5\n\n"
        ++ "You 🙂: Agent 🤖: Invalid expression 🙂\n"
        ++ "  (unexpected character 'x' at offset 4)\n\n"
        ++ "You 🙂: You 🙂: Agent 🤖: Byeee 👋\n\n"
  := by
  have htrimmed : ∀ message ∈ trimmedLines refusalAndFarewell,
      message.toList.head? ≠ some '#' := by
    decide +kernel
  have hanswered : (messagesOf refusalAndFarewell).zip
      (Calculator.respondAll { strict := true } (messagesOf refusalAndFarewell))
        = [("1 + x", .error (.unexpectedCharacter 'x' 4)), ("bye", .farewell),
          ("2", .result 2)] := by
    decide +kernel
  obtain ⟨hbatch, -, hexit, -, houtput, -⟩ :=
    chat_eq_batch "Agent 🤖:" "You 🙂:" true htrimmed
  rw [hanswered] at hbatch
  refine ⟨hbatch, hexit true, houtput.trans ?_⟩
  decide +kernel

end CommandLine

end DeskCalculator
