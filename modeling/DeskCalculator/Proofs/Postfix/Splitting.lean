import DeskCalculator.Proofs.Postfix.Parts
import DeskCalculator.Proofs.Precedence

/-!
# Splitting at the last operator

The postfix order of tokens as it is usually defined, by splitting them.  Tokens with an
additive operator outside all parentheses are split at the last one, and it comes after the
postfix orders of the two sides; failing that, the same holds of the last multiplicative
operator.  Without an outer operator the tokens are a row of numbers and groups, and their
postfix orders follow one another.

On balanced tokens the conversion in one pass gives the same result, whether or not the
tokens are an expression (`ofTokens_eq_splitting`).
-/

namespace DeskCalculator.Postfix

open Token

/-! ### The last outer operator -/

/-- The last outer operator of a class, with the tokens before and after it. -/
def lastOuter (p : Operator → Bool) (depth : Nat) :
    List Token → Option (List Token × Operator × List Token)
  | [] => none
  | token :: rest =>
    match lastOuter p (depthAfter depth token) rest with
    | some (left, op, right) => some (token :: left, op, right)
    | none => ((outerOperator? depth token).filter p).map fun op => ([], op, rest)

variable {p : Operator → Bool} {depth : Nat} {tokens left right : List Token} {op : Operator}

theorem outerOperator?_eq_some {token : Token} (h : outerOperator? depth token = some op) :
  depth = 0 ∧ token = .operator op
  := by
  unfold outerOperator? at h
  split at h
  · cases h
    exact ⟨rfl, rfl⟩
  · cases h

/-- Without a last outer operator of a class there is no outer operator of that class. -/
theorem not_of_lastOuter_eq_none (h : lastOuter p depth tokens = none) :
  ∀ o ∈ outerOperators depth tokens, ¬ p o
  := by
  induction tokens generalizing depth with
  | nil => simp [outerOperators]
  | cons token rest ih =>
    rw [lastOuter] at h
    split at h
    · cases h
    · next hrest =>
      rw [Option.map_eq_none_iff, Option.filter_eq_none_iff] at h
      intro o ho
      rw [outerOperators, List.mem_append, Option.mem_toList] at ho
      obtain htoken | ho := ho
      · apply h o htoken
      · apply ih hrest o ho

/-- The last outer operator of a class splits the tokens at depth zero, and none of its
class is at depth zero after it. -/
theorem lastOuter_eq_some (h : lastOuter p depth tokens = some (left, op, right)) :
  tokens = left ++ .operator op :: right
    ∧ unclosed depth left = 0
    ∧ p op
    ∧ ∀ o ∈ outerOperators 0 right, ¬ p o
  := by
  induction tokens generalizing depth left with
  | nil => cases h
  | cons token rest ih =>
    rw [lastOuter] at h
    split at h
    · next before o after hrest =>
      cases h
      obtain ⟨hsplit, hdepth, hop, hright⟩ := ih hrest
      exact ⟨congrArg (token :: ·) hsplit, hdepth, hop, hright⟩
    · next hrest =>
      obtain ⟨o, ho, hsplit⟩ := Option.map_eq_some_iff.mp h
      cases hsplit
      obtain ⟨htoken, hop⟩ := Option.filter_eq_some_iff.mp ho
      obtain ⟨rfl, rfl⟩ := outerOperator?_eq_some htoken
      exact ⟨rfl, rfl, hop, not_of_lastOuter_eq_none hrest⟩

theorem length_lt_of_lastOuter (h : lastOuter p depth tokens = some (left, op, right)) :
  left.length < tokens.length ∧ right.length < tokens.length
  := by
  obtain ⟨rfl, -⟩ := lastOuter_eq_some h
  rw [List.length_append, List.length_cons]
  omega

/-! ### Rows of numbers and groups -/

/-- The tokens up to the parenthesis that closes a group, and the tokens after it. -/
def closeGroup (depth : Nat) : List Token → List Token × List Token
  | [] => ([], [])
  | token :: rest =>
    if depth = 0 ∧ token = .closing then
      ([], rest)
    else
      let (inner, after) := closeGroup (depthAfter depth token) rest
      (token :: inner, after)

theorem length_closeGroup_le (depth : Nat) (tokens : List Token) :
  (closeGroup depth tokens).1.length + (closeGroup depth tokens).2.length ≤ tokens.length
  := by
  induction tokens generalizing depth with
  | nil => simp [closeGroup]
  | cons token rest ih =>
    have hrest := ih (depthAfter depth token)
    rw [closeGroup]
    split
    · simp
    · simp only [List.length_cons]
      omega

/-- A group that is closed ends at a parenthesis of its own depth. -/
theorem closeGroup_spec (h : unclosed (depth + 1) tokens = 0) :
  tokens = (closeGroup depth tokens).1 ++ .closing :: (closeGroup depth tokens).2
    ∧ unopened depth (closeGroup depth tokens).1 = 0
    ∧ unclosed depth (closeGroup depth tokens).1 = 0
  := by
  induction tokens generalizing depth with
  | nil => cases h
  | cons token rest ih =>
    rw [closeGroup]
    split
    · next hclosing =>
      obtain ⟨rfl, rfl⟩ := hclosing
      exact ⟨rfl, rfl, rfl⟩
    · next hinner =>
      rw [unclosed, depthAfter_add hinner] at h
      obtain ⟨hsplit, hopened, hclosed⟩ := ih h
      refine ⟨congrArg (token :: ·) hsplit, ?_, hclosed⟩
      apply unopened_cons_eq_zero.mpr ⟨hinner, hopened⟩

/-- A part of tokens without an outer operator. -/
inductive Piece where
  | number (x : Float)
  /-- The tokens between two parentheses. -/
  | group (inner : List Token)

/-- The numbers and groups outside all parentheses. -/
def pieces : List Token → List Piece
  | [] => []
  | .number x :: rest => .number x :: pieces rest
  | .opening :: rest => .group (closeGroup 0 rest).1 :: pieces (closeGroup 0 rest).2
  | _ :: rest => pieces rest
termination_by tokens => tokens.length
decreasing_by
  · simp
  · have := length_closeGroup_le 0 rest
    simp only [List.length_cons]
    omega
  · simp

/-- The inside of a group is shorter than the tokens it is in. -/
theorem length_lt_of_mem_pieces {inner : List Token} (h : .group inner ∈ pieces tokens) :
  inner.length < tokens.length
  := by
  fun_induction pieces tokens with
  | case1 => cases h
  | case2 x rest ih =>
    obtain h | h := List.mem_cons.mp h
    · cases h
    · rw [List.length_cons]
      have := ih h
      omega
  | case3 rest ih =>
    have hlength := length_closeGroup_le 0 rest
    rw [List.length_cons]
    obtain h | h := List.mem_cons.mp h
    · cases h
      omega
    · have := ih h
      omega
  | case4 token rest _ _ ih =>
    rw [List.length_cons]
    have := ih h
    omega

/-- The postfix order of a piece, if `f` gives the one of the inside of a group. -/
def Piece.order (piece : Piece) (f : ∀ inner, piece = .group inner → List Token) : List Token :=
  match piece with
  | number x => [.number x]
  | group inner => f inner rfl

theorem Piece.order_congr {piece : Piece} {f g : ∀ inner, piece = .group inner → List Token}
    (h : ∀ inner (hinner : piece = .group inner), f inner hinner = g inner hinner) :
  piece.order f = piece.order g
  := by
  cases piece with
  | number x => rfl
  | group inner => apply h inner rfl

/-- Balanced tokens without an outer operator are converted piece by piece. -/
theorem ofTokens_pieces (h : Balanced tokens) (houter : outerOperators 0 tokens = []) :
  ofTokens tokens = (pieces tokens).flatMap (fun piece => piece.order fun inner _ => ofTokens inner)
    ∧ ∀ inner, .group inner ∈ pieces tokens → Balanced inner
  := by
  fun_induction pieces tokens with
  | case1 => exact ⟨rfl, by simp⟩
  | case2 x rest ih =>
    rw [← List.singleton_append] at h houter
    obtain ⟨-, hrest⟩ := (balanced_append_iff rfl).mp h
    obtain ⟨horder, hgroups⟩ := ih hrest houter
    constructor
    · rw [ofTokens_number_cons, horder, List.flatMap_cons]
      rfl
    · intro inner hinner
      obtain hinner | hinner := List.mem_cons.mp hinner
      · cases hinner
      · apply hgroups inner hinner
  | case3 rest ih =>
    obtain ⟨hsplit, hopened, hclosed⟩ := closeGroup_spec h.unclosed_eq_zero
    generalize (closeGroup 0 rest).1 = inner at *
    generalize (closeGroup 0 rest).2 = after at *
    have hinner : Balanced inner := ⟨hopened, hclosed⟩
    have htokens : .opening :: rest = .opening :: inner ++ [.closing] ++ after := by
      simp [hsplit]
    rw [htokens] at h houter
    obtain ⟨-, hafter⟩ := (balanced_append_iff hinner.group.unclosed_eq_zero).mp h
    rw [outerOperators_append, hinner.outerOperators_group, List.nil_append,
      hinner.group.unclosed_eq_zero] at houter
    obtain ⟨horder, hgroups⟩ := ih hafter houter
    constructor
    · rw [htokens, ofTokens_group_append hinner, horder, List.flatMap_cons]
      rfl
    · intro other hother
      obtain hother | hother := List.mem_cons.mp hother
      · cases hother
        apply hinner
      · apply hgroups other hother
  | case4 token rest hnumber hopening ih =>
    cases token with
    | number x => exact absurd rfl (hnumber x)
    | operator op => cases houter
    | opening => exact absurd rfl hopening
    | closing =>
      have hopened := h.unopened_eq_zero
      simp [unopened] at hopened

/-! ### The postfix order by splitting -/

/-- The postfix order of tokens: split at the last outer additive operator, failing that at
the last outer multiplicative one, and otherwise piece by piece. -/
def splitting (tokens : List Token) : List Token :=
  match hadditive : lastOuter Operator.isAdditive 0 tokens with
  | some (left, op, right) => splitting left ++ splitting right ++ [.operator op]
  | none =>
    match hmultiplicative : lastOuter Operator.isMultiplicative 0 tokens with
    | some (left, op, right) => splitting left ++ splitting right ++ [.operator op]
    | none =>
      (pieces tokens).attach.flatMap fun piece => piece.1.order fun inner _ => splitting inner
termination_by tokens.length
decreasing_by
  · exact (length_lt_of_lastOuter hadditive).1
  · exact (length_lt_of_lastOuter hadditive).2
  · exact (length_lt_of_lastOuter hmultiplicative).1
  · exact (length_lt_of_lastOuter hmultiplicative).2
  · next hinner =>
    apply length_lt_of_mem_pieces
    rw [← hinner]
    exact piece.2

/-- On balanced tokens the conversion in one pass is the postfix order by splitting. -/
theorem ofTokens_eq_splitting {tokens : List Token} (h : Balanced tokens) :
  ofTokens tokens = splitting tokens
  := by
  fun_induction splitting tokens with
  | case1 tokens left op right hlast ihleft ihright =>
    obtain ⟨rfl, hclosed, hop, hright⟩ := lastOuter_eq_some hlast
    obtain ⟨hbefore, hafter⟩ := h.sides hclosed
    have horder := ofTokens_operator hclosed hafter.unopened_eq_zero
      (fun o _ => Operator.precedence_le_of_isAdditive hop o)
      (fun o ho => Operator.precedence_lt_of_isAdditive hop
        (Operator.isMultiplicative_of_not_isAdditive (hright o ho)))
    rw [horder, ihleft hbefore, ihright hafter]
  | case2 tokens hadditive left op right hlast ihleft ihright =>
    obtain ⟨rfl, hclosed, hop, hright⟩ := lastOuter_eq_some hlast
    obtain ⟨hbefore, hafter⟩ := h.sides hclosed
    have houter : ∀ o ∈ outerOperators 0 left ++ op :: outerOperators 0 right,
        o.isMultiplicative := by
      intro o ho
      rw [← outerOperators_split hclosed] at ho
      apply Operator.isMultiplicative_of_not_isAdditive
      apply not_of_lastOuter_eq_none hadditive o ho
    -- So the left side has no outer operators but multiplicative ones, and the right side
    -- has none at all.
    have horder := ofTokens_operator hclosed hafter.unopened_eq_zero
      (fun o ho => Nat.le_of_eq (Operator.precedence_eq_of_isMultiplicative hop
        (houter o (List.mem_append_left _ ho))))
      (fun o ho => absurd
        (houter o (List.mem_append_right _ (List.mem_cons_of_mem op ho))) (hright o ho))
    rw [horder, ihleft hbefore, ihright hafter]
  | case3 tokens hadditive hmultiplicative ih =>
    have houter : outerOperators 0 tokens = [] := by
      apply List.eq_nil_iff_forall_not_mem.mpr
      intro o ho
      apply not_of_lastOuter_eq_none hmultiplicative o ho
      apply Operator.isMultiplicative_of_not_isAdditive
      apply not_of_lastOuter_eq_none hadditive o ho
    obtain ⟨horder, hgroups⟩ := ofTokens_pieces h houter
    have hpieces := List.flatMap_subtype (l := (pieces tokens).attach)
      (f := fun piece => piece.1.order fun inner _ => splitting inner)
      (g := fun piece => piece.order fun inner _ => ofTokens inner) (by
      intro piece hpiece
      apply Piece.order_congr
      rintro inner rfl
      symm
      apply ih ⟨_, hpiece⟩ inner rfl (hgroups inner hpiece))
    rw [horder, hpieces, List.unattach_attach]

/-- The postfix order of `- ( ) ( 1 2 ) * - 3` by splitting. -/
theorem splitting_of_missing_operands :
  Balanced [.operator .subtract, .opening, .closing, .opening, .number 1, .number 2, .closing,
      .operator .multiply, .operator .subtract, .number 3]
    ∧ splitting [.operator .subtract, .opening, .closing, .opening, .number 1, .number 2,
      .closing, .operator .multiply, .operator .subtract, .number 3]
      = [.number 1, .number 2, .operator .multiply, .operator .subtract, .number 3,
        .operator .subtract]
  := by
  have h : Balanced [.operator .subtract, .opening, .closing, .opening, .number 1, .number 2,
      .closing, .operator .multiply, .operator .subtract, .number 3] := ⟨rfl, rfl⟩
  constructor
  · apply h
  · rw [← ofTokens_eq_splitting h]
    rfl

end DeskCalculator.Postfix
