import DeskCalculator.Proofs.Decimal.Reading
import DeskCalculator.Proofs.Fault
import DeskCalculator.Proofs.Json.Reading
import DeskCalculator.Reply

/-!
# Replies told apart

The text of a reply tells which reply it is up to the fault of an error
(`eq_or_error_of_text_eq`).  The record of an error has the wording of its fault, too, therefore
no two messages or replies have the same record (`json_record_injective`).
-/

namespace DeskCalculator.Reply

/-! ### Texts -/

/-- The first character of the text of a reply, which tells the kinds of replies apart. -/
def mark : Reply → Char
  | greeting => 'H'
  | farewell => 'B'
  | result _ => 'T'
  | error _ => 'I'

theorem head?_text (reply : Reply) :
  reply.text.toList.head? = some reply.mark
  := by
  cases reply with
  | greeting => rfl
  | farewell => rfl
  | result x =>
    unfold text
    rw [String.toList_append, List.head?_append_of_ne_nil _ (by decide)]
    rfl
  | error fault =>
    have htext : (error fault).text = "Invalid expression 🙂" := rfl
    rw [htext]
    rfl

/-- The text of a reply tells which reply it is, except for the fault of an error. -/
theorem eq_or_error_of_text_eq {reply reply' : Reply} (h : reply.text = reply'.text) :
  reply = reply' ∨ ∃ fault fault', reply = .error fault ∧ reply' = .error fault'
  := by
  have hmark : reply.mark = reply'.mark := by
    apply Option.some.inj
    rw [← head?_text, ← head?_text, h]
  cases reply with
  | greeting =>
    left
    cases reply' with
    | greeting => rfl
    | _ => simp [mark] at hmark
  | farewell =>
    left
    cases reply' with
    | farewell => rfl
    | _ => simp [mark] at hmark
  | result x =>
    left
    cases reply' with
    | result y =>
      unfold text at h
      rw [Layout.text_result_injective ((String.append_right_inj _).mp h)]
    | _ => simp [mark] at hmark
  | error fault =>
    right
    cases reply' with
    | error fault' => exact ⟨fault, fault', rfl, rfl⟩
    | _ => simp [mark] at hmark

/-! ### Records -/

/-- Neither two messages nor two replies have the same record, although what is no finite number
is written `null`, and all errors have the same text. -/
theorem json_record_injective :
  (∀ input input' reply reply',
      (record input reply).json "" = (record input' reply').json "" →
        input = input' ∧ reply = reply')
    ∧ (∀ x, (∀ negative significand scale,
        Binary64.contents x ≠ .finite negative significand scale) → Layout.record.text x = "null")
    ∧ ∀ fault fault', (error fault).text = (error fault').text
  := by
  refine ⟨?_, ?_, fun _ _ => rfl⟩
  · intro input input' reply reply' h
    obtain ⟨rfl, hreply⟩ := Json.json_text_injective h
    obtain ⟨htext, hdetails⟩ := Json.following_text_injective hreply
    use rfl
    obtain heq | ⟨fault, fault', rfl, rfl⟩ := eq_or_error_of_text_eq htext
    · apply heq
    · obtain ⟨-, hcause⟩ := Json.following_text_injective hdetails
      obtain ⟨hmessage, -⟩ := Json.following_text_injective hcause
      rw [Fault.message_injective hmessage]
  · intro x hx
    rw [Layout.text]
    cases hcontents : Binary64.contents x with
    | undefined => rfl
    | infinite negative => cases negative <;> rfl
    | finite negative significand scale => exact absurd hcontents (hx negative significand scale)

end DeskCalculator.Reply
