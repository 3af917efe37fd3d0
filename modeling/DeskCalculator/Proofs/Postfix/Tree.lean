import DeskCalculator.Proofs.Postfix.Reduction

/-!
# Expression trees

The trees of binary operations on numbers.  A tree is listed in postorder, the two sides of
an operation before its operator, and it is evaluated from left to right.

The reduction of a postorder listing computes the value of the tree, and every reduction
that succeeds has read postorder listings of trees, one for each operand it leaves
(`exists_trees_of_reduce`).
-/

namespace DeskCalculator.Postfix

/-- A binary expression tree. -/
inductive Tree where
  | leaf (x : Float)
  | node (left : Tree) (op : Operator) (right : Tree)

namespace Tree

/-- The tokens of a tree, both sides of an operation before its operator. -/
def postorder : Tree → List Token
  | leaf x => [.number x]
  | node left op right => left.postorder ++ right.postorder ++ [.operator op]

/-- The value of a tree, evaluated from left to right. -/
def value : Tree → Except Fault Float
  | leaf x => .ok x
  | node left op right => op.evaluate left.value right.value

/-- The postorder listing of a tree is reduced to the value of the tree. -/
theorem reduce_postorder (tree : Tree) (operands : List Float) :
  reduce operands tree.postorder = tree.value.map (· :: operands)
  := by
  induction tree generalizing operands with
  | leaf x => rfl
  | node left op right ihleft ihright => apply reduce_operation ihleft ihright

end Tree

/-- Trees that have given operands as values. -/
abbrev Trees (trees : List Tree) (operands : List Float) : Prop :=
  List.Forall₂ (fun tree x => tree.value = .ok x) trees operands

variable {tokens : List Token} {trees : List Tree} {operands rest : List Float}

/-- A step of a reduction adds a leaf to the trees of the operands, or joins the two trees on
top. -/
theorem exists_trees_of_reduceToken {token : Token} (htrees : Trees trees operands)
    (h : reduceToken operands token = .ok rest) :
  ∃ others, Trees others rest
    ∧ others.reverse.flatMap Tree.postorder = trees.reverse.flatMap Tree.postorder ++ [token]
  := by
  obtain ⟨x, rfl, rfl⟩ | ⟨op, a, b, x, below, rfl, rfl, hvalue, rfl⟩ :=
    reduceToken_eq_ok_iff.mp h
  · use .leaf x :: trees, .cons rfl htrees
    simp [Tree.postorder]
  · obtain ⟨right, _, hright, hothers, rfl⟩ := List.forall₂_cons_right_iff.mp htrees
    obtain ⟨left, others, hleft, hbelow, rfl⟩ := List.forall₂_cons_right_iff.mp hothers
    -- the reversed stack lists the left tree before the right one, as the joined tree does
    have hnode : (Tree.node left op right).value = .ok x := by
      rw [Tree.value, hleft, hright]
      apply hvalue
    use .node left op right :: others, .cons hnode hbelow
    simp [Tree.postorder]

/-- A reduction that succeeds reads postorder listings: those of the trees of the operands it
leaves are those of the trees of the operands it starts from, followed by its tokens. -/
theorem exists_trees_of_reduce (htrees : Trees trees operands)
    (h : reduce operands tokens = .ok rest) :
  ∃ others, Trees others rest
    ∧ others.reverse.flatMap Tree.postorder = trees.reverse.flatMap Tree.postorder ++ tokens
  := by
  induction tokens generalizing trees operands with
  | nil =>
    cases h
    exact ⟨trees, htrees, (List.append_nil _).symm⟩
  | cons token tokens ih =>
    obtain ⟨next, hstep, hrest⟩ := reduce_cons_eq_ok h
    obtain ⟨joined, hjoined, hlisting⟩ := exists_trees_of_reduceToken htrees hstep
    obtain ⟨others, hothers, hlistings⟩ := ih hjoined hrest
    use others, hothers
    rw [hlistings, hlisting, List.append_assoc, List.singleton_append]

/-- Tokens have a value exactly if they are the postorder listing of a tree with that
value. -/
theorem value_eq_ok_iff_exists_tree {x : Float} :
  value tokens = .ok x ↔ ∃ tree : Tree, tree.postorder = tokens ∧ tree.value = .ok x
  := by
  rw [value_eq_ok_iff]
  constructor
  · intro h
    obtain ⟨trees, htrees, hlisting⟩ := exists_trees_of_reduce .nil h
    obtain ⟨tree, others, hvalue, hothers, rfl⟩ := List.forall₂_cons_right_iff.mp htrees
    rw [List.forall₂_nil_right_iff.mp hothers] at hlisting
    exact ⟨tree, by simpa using hlisting, hvalue⟩
  · rintro ⟨tree, rfl, hvalue⟩
    rw [tree.reduce_postorder, hvalue]
    rfl

end DeskCalculator.Postfix
