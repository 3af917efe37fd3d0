import DeskCalculator.Postfix.Value
import DeskCalculator.Proofs.Evaluation

/-!
# Reductions

The reduction of a postfix expression goes on from the operands that its beginning leaves
(`reduce_append`).  Operands below those that a reduction needs are left as they are
(`reduce_append_operands`), so a part that has a value on its own has the effect of its
value wherever it stands (`reduce_of_value`).
-/

namespace DeskCalculator.Postfix

variable {operands rest : List Float} {tokens : List Token}

theorem reduce_cons (operands : List Float) (token : Token) (tokens : List Token) :
  reduce operands (token :: tokens) = reduceToken operands token >>= (reduce · tokens)
  := rfl

theorem reduce_append (operands : List Float) (before after : List Token) :
  reduce operands (before ++ after) = reduce operands before >>= (reduce · after)
  := by
  induction before generalizing operands with
  | nil => rfl
  | cons token tokens ih =>
    rw [List.cons_append, reduce_cons, reduce_cons]
    cases reduceToken operands token with
    | error fault => rfl
    | ok operands => apply ih

/-- The step of a reduction that succeeds. -/
theorem reduce_cons_eq_ok {token : Token} (h : reduce operands (token :: tokens) = .ok rest) :
  ∃ next, reduceToken operands token = .ok next ∧ reduce next tokens = .ok rest
  := by
  rw [reduce_cons] at h
  cases hstep : reduceToken operands token with
  | error fault =>
    rw [hstep] at h
    cases h
  | ok next =>
    rw [hstep] at h
    exact ⟨next, rfl, h⟩

/-- A step that succeeds puts a number on the operands, or the value of an operation in the
place of its two operands. -/
theorem reduceToken_eq_ok_iff {token : Token} :
  reduceToken operands token = .ok rest
    ↔ (∃ x, token = .number x ∧ rest = x :: operands)
      ∨ ∃ op a b x below, token = .operator op ∧ operands = b :: a :: below
        ∧ op.apply a b = .ok x ∧ rest = x :: below
  := by
  constructor
  · intro h
    cases token with
    | number x =>
      cases h
      exact .inl ⟨x, rfl, rfl⟩
    | operator op =>
      obtain _ | ⟨b, _ | ⟨a, below⟩⟩ := operands
      · cases h
      · cases h
      · rw [reduceToken] at h
        cases hvalue : op.apply a b with
        | error fault =>
          rw [hvalue] at h
          cases h
        | ok x =>
          rw [hvalue] at h
          cases h
          exact .inr ⟨op, a, b, x, below, rfl, rfl, hvalue, rfl⟩
    | opening => cases h
    | closing => cases h
  · rintro (⟨x, rfl, rfl⟩ | ⟨op, a, b, x, below, rfl, rfl, hvalue, rfl⟩)
    · rfl
    · rw [reduceToken, hvalue]
      rfl

/-- A step fails for a parenthesis, for an operator without two operands, and for a division
by zero. -/
theorem reduceToken_eq_error_iff {token : Token} {fault : Fault} :
  reduceToken operands token = .error fault
    ↔ (token = .opening ∨ token = .closing) ∧ fault = .strayParenthesis
      ∨ (∃ op, token = .operator op ∧ operands.length < 2 ∧ fault = .missingOperand op)
      ∨ ∃ a b below, token = .operator .divide ∧ operands = b :: a :: below ∧ IsZero b
        ∧ fault = .divisionByZero
  := by
  cases token with
  | number x => simp [reduceToken]
  | operator op =>
    obtain _ | ⟨b, _ | ⟨a, below⟩⟩ := operands
    · simp [reduceToken, eq_comm]
    · simp [reduceToken, eq_comm]
    · have hvalue : (op.apply a b).map (· :: below) = .error fault
          ↔ op.apply a b = .error fault := by
        cases op.apply a b <;> simp [Except.map]
      rw [reduceToken, hvalue, Operator.apply_eq_error_iff]
      simp
      tauto
  | opening => simp [reduceToken, eq_comm]
  | closing => simp [reduceToken, eq_comm]

/-- A token that finds its operands leaves those below them as they are. -/
theorem reduceToken_append {token : Token} (h : reduceToken operands token = .ok rest)
    (below : List Float) :
  reduceToken (operands ++ below) token = .ok (rest ++ below)
  := by
  apply reduceToken_eq_ok_iff.mpr
  obtain ⟨x, rfl, rfl⟩ | ⟨op, a, b, x, others, rfl, rfl, hvalue, rfl⟩ :=
    reduceToken_eq_ok_iff.mp h
  · exact .inl ⟨x, rfl, rfl⟩
  · exact .inr ⟨op, a, b, x, others ++ below, rfl, rfl, hvalue, rfl⟩

/-- A reduction that finds its operands leaves those below them as they are. -/
theorem reduce_append_operands (h : reduce operands tokens = .ok rest) (below : List Float) :
  reduce (operands ++ below) tokens = .ok (rest ++ below)
  := by
  induction tokens generalizing operands with
  | nil =>
    cases h
    rfl
  | cons token tokens ih =>
    obtain ⟨next, hstep, hrest⟩ := reduce_cons_eq_ok h
    rw [reduce_cons, reduceToken_append hstep]
    apply ih hrest

/-- A reduction that succeeds meets no opening parenthesis. -/
theorem opening_not_mem_of_reduce (h : reduce operands tokens = .ok rest) :
  .opening ∉ tokens
  := by
  induction tokens generalizing operands with
  | nil => simp
  | cons token tokens ih =>
    obtain ⟨next, hstep, hrest⟩ := reduce_cons_eq_ok h
    rw [List.mem_cons, not_or]
    constructor
    · rintro rfl
      cases hstep
    · apply ih hrest

/-- Two parts and an operator after them are reduced to the value of the operation, if each
part is reduced to a value. -/
theorem reduce_operation {left right : List Token} {a b : Except Fault Float}
    (hleft : ∀ operands, reduce operands left = a.map (· :: operands))
    (hright : ∀ operands, reduce operands right = b.map (· :: operands))
    (op : Operator) (operands : List Float) :
  reduce operands (left ++ right ++ [.operator op])
    = (op.evaluate a b).map (· :: operands)
  := by
  rw [reduce_append, reduce_append, hleft]
  cases a with
  | error fault => rfl
  | ok x =>
    show reduce (x :: operands) right >>= (reduce · [.operator op]) = _
    rw [hright]
    cases b with
    | error fault => rfl
    | ok y =>
      show ((op.apply x y).map (· :: operands) >>= (reduce · [])) = (op.apply x y).map _
      cases op.apply x y <;> rfl

/-! ### Values -/

/-- A postfix expression has a value exactly if it leaves one operand, which is the value. -/
theorem value_eq_ok_iff {x : Float} :
  value tokens = .ok x ↔ reduce [] tokens = .ok [x]
  := by
  rw [value]
  constructor
  · intro h
    cases hreduce : reduce [] tokens with
    | error fault =>
      rw [hreduce] at h
      cases h
    | ok operands =>
      rw [hreduce] at h
      obtain _ | ⟨y, _ | ⟨z, others⟩⟩ := operands
      · cases h
      · cases h
        rfl
      · cases h
  · intro h
    rw [h]
    rfl

/-- A postfix expression that has a value puts it on the operands it finds. -/
theorem reduce_of_value {x : Float} (h : value tokens = .ok x) (operands : List Float) :
  reduce operands tokens = .ok (x :: operands)
  := reduce_append_operands (value_eq_ok_iff.mp h) operands

/-- A part that has a value can be replaced by its value. -/
theorem value_append_of_value {part : List Token} {x : Float} (h : value part = .ok x)
    (before after : List Token) :
  value (before ++ part ++ after) = value (before ++ [.number x] ++ after)
  := by
  have hpart : (reduce · part) = (reduce · [.number x]) := by
    funext operands
    apply reduce_of_value h
  simp only [value, reduce_append, hpart]

end DeskCalculator.Postfix
