import Reckon.Operator
import Reckon.Value.Basic

/-!
# Expressions

An expression is a tree of operators over literal values. Trees are assembled
from the right: an operator is grafted onto the finished tree on its right,
where it goes down the left edge past every operator that binds less tightly.
-/

namespace Reckon

inductive Expr where
  | literal (v : Value)
  | step (op : StepOp) (operand : Expr)
  | binary (op : BinaryOp) (left right : Expr)
  deriving DecidableEq, Repr

namespace Expr

/-- The number of edges on the longest path down from the root. -/
def height : Expr -> Nat
  | .literal _ => 0
  | .step _ operand => operand.height + 1
  | .binary _ left right => max left.height right.height + 1

def size : Expr -> Nat
  | .literal _ => 1
  | .step _ operand => operand.size + 1
  | .binary _ left right => left.size + right.size + 1

def leaves : Expr -> List Value
  | .literal v => [v]
  | .step _ operand => operand.leaves
  | .binary _ left right => left.leaves ++ right.leaves

/-- Puts `lhs op` in front of a tree. Where the root binds less tightly than
`op`, the root stays on top and its left side takes `op` in; operators of equal
strength group to the right. -/
def graft (op : BinaryOp) (lhs : Expr) : Expr -> Expr
  | .binary root left right =>
      if root.precedence < op.precedence then .binary root (graft op lhs left) right
      else .binary op lhs (.binary root left right)
  | rhs => .binary op lhs rhs

theorem height_lt_size (e : Expr) : e.height < e.size := by
  induction e with
  | literal _ => exact Nat.zero_lt_one
  | step _ _ ih =>
      simp only [height, size]
      omega
  | binary _ _ _ ihl ihr =>
      simp only [height, size]
      omega

theorem leaves_graft (op : BinaryOp) (lhs rhs : Expr) :
    (graft op lhs rhs).leaves = lhs.leaves ++ rhs.leaves := by
  induction rhs with
  | literal _ => rfl
  | step _ _ _ => rfl
  | binary root left right ihl _ =>
      rw [graft]
      split
      · simp [leaves, ihl]
      · rfl

theorem size_graft (op : BinaryOp) (lhs rhs : Expr) :
    (graft op lhs rhs).size = lhs.size + rhs.size + 1 := by
  induction rhs with
  | literal _ => rfl
  | step _ _ _ => rfl
  | binary root left right ihl _ =>
      rw [graft]
      split
      · simp only [size, ihl]
        omega
      · rfl

end Expr
end Reckon
