import DeskCalculator.Calculator

/-!
# Replies of a calculator

A calculator replies out of its words and its way of reading alone: what it remembers shows in
no reply, and neither does what it has been asked before (`respondAll_eq_map`).
-/

namespace DeskCalculator

/-- The reply that tells the outcome of an evaluation. -/
def Reply.ofValue : Except Fault Float → Reply
  | .ok x => .result x
  | .error fault => .error fault

namespace Calculator

variable {calculator : Calculator} {message : String}

/-- A message without any of the words is evaluated. -/
theorem reply_of_not_mentions
    (hgreetings : mentions (Text.lowercase message.toList) calculator.greetings = false)
    (hfarewells : mentions (Text.lowercase message.toList) calculator.farewells = false) :
  calculator.reply message = Reply.ofValue (Expression.value calculator.strict message)
  := by
  rw [reply, hgreetings, hfarewells, if_neg Bool.false_ne_true, if_neg Bool.false_ne_true]
  cases Expression.value calculator.strict message <;> rfl

/-- A reply is a greeting or a farewell, or it tells the outcome of the evaluation. -/
theorem reply_cases (calculator : Calculator) (message : String) :
  calculator.reply message = .greeting
    ∨ calculator.reply message = .farewell
    ∨ calculator.reply message = Reply.ofValue (Expression.value calculator.strict message)
  := by
  rw [reply]
  split
  · left
    rfl
  · right
    split
    · left
      rfl
    · right
      cases Expression.value calculator.strict message <;> rfl

/-- An error is the fault of the evaluation. -/
theorem value_of_reply_error {fault : Fault} (h : calculator.reply message = .error fault) :
  Expression.value calculator.strict message = .error fault
  := by
  obtain hgreeting | hfarewell | hvalue := calculator.reply_cases message
  · rw [h] at hgreeting
    cases hgreeting
  · rw [h] at hfarewell
    cases hfarewell
  · rw [h] at hvalue
    cases houtcome : Expression.value calculator.strict message with
    | ok x =>
      rw [houtcome] at hvalue
      cases hvalue
    | error other =>
      rw [houtcome] at hvalue
      cases hvalue
      rfl

/-- A reply is remembered, if at all, in the last result alone. -/
theorem remember_eq (calculator : Calculator) (reply : Reply) :
  calculator.remember reply
    = { calculator with lastResult := reply.value?.or calculator.lastResult }
  := by
  cases reply <;> rfl

/-- What is remembered shows in no reply. -/
theorem reply_remember (calculator : Calculator) (reply : Reply) :
  (calculator.remember reply).reply = calculator.reply
  := by
  funext message
  rw [remember_eq]
  rfl

theorem respondAll_cons (calculator : Calculator) (message : String) (rest : List String) :
  calculator.respondAll (message :: rest)
    = calculator.reply message
      :: (calculator.remember (calculator.reply message)).respondAll rest
  := rfl

/-- The replies to several messages are those to each message alone. -/
theorem respondAll_eq_map (calculator : Calculator) (messages : List String) :
  calculator.respondAll messages = messages.map calculator.reply
  := by
  induction messages generalizing calculator with
  | nil => rfl
  | cons message rest ih =>
    rw [respondAll_cons, ih, reply_remember, List.map_cons]

end Calculator

end DeskCalculator
