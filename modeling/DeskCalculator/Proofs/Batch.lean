import DeskCalculator.CommandLine.Batch
import DeskCalculator.CommandLine.Eval
import DeskCalculator.Proofs.Calculator
import DeskCalculator.Proofs.Json
import DeskCalculator.Proofs.Text.Bytes
import DeskCalculator.Proofs.Text.Lines

/-!
# Batches and single messages

The messages of a file are answered by one calculator, and each of them gets the answer that it
would get on its own: the records of a batch are those of its messages, one for each, and the
batch fails exactly if one of its messages would (`batch_json_eq_map_eval`).
-/

namespace DeskCalculator

/-- A record has at least the message and the text of the reply. -/
theorem Reply.record_ne_nil (input : String) (reply : Reply) :
  reply.record input ≠ []
  := by
  simp [record]

namespace CommandLine

/-! ### One message -/

theorem eval_json_output (verbose strict : Bool) (message : String) :
  (eval verbose strict true message).output
    = ((Calculator.reply { strict } message).record message).json "" ++ "\n"
  := by
  cases hreply : Calculator.reply { strict } message <;> simp [eval, hreply]

theorem eval_exitCode (verbose strict json : Bool) (message : String) :
  (eval verbose strict json message).exitCode
    = if (Calculator.reply { strict } message).isError then 65 else 0
  := by
  cases hreply : Calculator.reply { strict } message <;>
    simp [eval, hreply, Reply.isError, Outcome.success, Outcome.dataError]

/-! ### The messages of a file -/

/-- The messages of a text: its lines, which end with a line feed or with a carriage return and
a line feed, without the white space around them; empty lines and lines that begin with `#` are
no messages. -/
def messagesOf (text : String) : List String :=
  (((Text.shownLines text.toList).map Text.trim).filter fun line =>
    line ≠ [] ∧ line.head? ≠ some '#').map String.ofList

theorem expressions_eq_messagesOf (text : String) :
  expressions text = messagesOf text
  := by
  rw [expressions, messagesOf, Text.map_trim_lines]
  congr 2
  funext line
  rw [Bool.eq_iff_iff]
  cases line <;> simp

theorem decode_bytes (text : String) :
  decode (.ok (Text.bytes text)) = .ok text
  := by
  have htext : textOf? (Text.bytes text) = some text := Text.fromUTF8?_bytes text
  simp only [decode, bind, Except.bind, htext]

/-! ### The replies of a batch -/

/-- The messages of a batch with their replies. -/
theorem zip_respondAll (calculator : Calculator) (messages : List String) :
  messages.zip (calculator.respondAll messages)
    = messages.map fun message => (message, calculator.reply message)
  := by
  rw [Calculator.respondAll_eq_map, List.map_prod_left_eq_zip]

/-- The messages of a text with the replies of a new calculator. -/
def answered (strict : Bool) (text : String) : List (String × Reply) :=
  (messagesOf text).map fun message => (message, Calculator.reply { strict } message)

/-- A batch shows its messages and their replies. -/
theorem batch_output (verbose strict json : Bool) (file text : String) :
  (batch verbose strict json file (.ok (Text.bytes text))).output
    = batchOutput strict json (answered strict text)
  := by
  rw [batch, decode_bytes, answered, ← zip_respondAll, ← expressions_eq_messagesOf]

theorem batch_json_output (verbose strict : Bool) (file text : String) :
  (batch verbose strict true file (.ok (Text.bytes text))).output
    = Json.array ((messagesOf text).map fun message =>
        (Calculator.reply { strict } message).record message) ++ "\n"
  := by
  rw [batch_output, batchOutput, if_pos rfl, answered, List.map_map]
  rfl

theorem batch_exitCode (verbose strict json : Bool) (file text : String) :
  (batch verbose strict json file (.ok (Text.bytes text))).exitCode
    = if ∃ message ∈ messagesOf text, (Calculator.reply { strict } message).isError then 65 else 0
  := by
  rw [batch, decode_bytes]
  apply if_congr _ rfl rfl
  rw [failures, List.countP_pos_iff, Calculator.respondAll_eq_map, expressions_eq_messagesOf]
  simp only [List.mem_map, exists_exists_and_eq_and]

/-- A batch prints, as the array of records, the objects that its messages get on their own, one
for each message and in their order.  It fails if one of the messages fails on its own, and
succeeds otherwise; a message that is a greeting or a farewell does not fail. -/
theorem batch_json_eq_map_eval (strict verbose verboseAlone : Bool) (file text : String) :
  ∃ object : String → String,
    (∀ message, (eval verboseAlone strict true message).output = object message ++ "\n")
      ∧ (batch verbose strict true file (.ok (Text.bytes text))).output
        = Json.arrayOf ((messagesOf text).map object) ++ "\n"
      ∧ (batch verbose strict true file (.ok (Text.bytes text))).exitCode
        = (if ∃ message ∈ messagesOf text, (eval verboseAlone strict true message).exitCode = 65
          then 65 else 0)
      ∧ ∀ message, Calculator.reply { strict } message ∈ [.greeting, .farewell] →
        (eval verboseAlone strict true message).exitCode = 0
  := by
  have hfails : ∀ message, (eval verboseAlone strict true message).exitCode = 65
      ↔ (Calculator.reply { strict } message).isError := by
    intro message
    rw [eval_exitCode]
    split <;> simp_all
  refine ⟨_, eval_json_output verboseAlone strict, ?_, ?_, ?_⟩
  · rw [batch_json_output, Json.array_eq_arrayOf, List.map_map]
    · rfl
    · intro record hrecord
      obtain ⟨message, -, rfl⟩ := List.mem_map.mp hrecord
      apply Reply.record_ne_nil
  · rw [batch_exitCode]
    simp only [hfails]
  · intro message hreply
    have herror : (Calculator.reply { strict } message).isError = false := by
      rcases List.mem_pair.mp hreply with h | h <;> rw [h] <;> rfl
    rw [eval_exitCode, herror, if_neg Bool.false_ne_true]

/-- A file with a comment, a sum, a blank line, a greeting and a division by zero. -/
def greetingAmongSums : String :=
  "# sums\r\n 1 + 1 \r\n\r\n\thi\n4 / 0"

/-- The comment and the blank line are left out, the greeting is answered between the others,
and the division by zero behind it makes the batch fail. -/
theorem batch_json_eq_map_eval_of_greeting :
  ∃ object : String → String,
    (∀ message, (eval false false true message).output = object message ++ "\n")
      ∧ (batch false false true "sums" (.ok (Text.bytes greetingAmongSums))).output
        = Json.arrayOf [object "1 + 1", object "hi", object "4 / 0"] ++ "\n"
      ∧ (batch false false true "sums" (.ok (Text.bytes greetingAmongSums))).exitCode = 65
      ∧ (eval false false true "hi").exitCode = 0
  := by
  have hmessages : messagesOf greetingAmongSums = ["1 + 1", "hi", "4 / 0"] := by decide +kernel
  have hgreeting : Calculator.reply {} "hi" ∈ [.greeting, .farewell] := by decide +kernel
  obtain ⟨object, halone, houtput, hexit, hgreeted⟩ :=
    batch_json_eq_map_eval false false false "sums" greetingAmongSums
  rw [hmessages] at houtput hexit
  refine ⟨object, halone, houtput, ?_, hgreeted "hi" hgreeting⟩
  rw [hexit]
  decide +kernel

end CommandLine

end DeskCalculator
