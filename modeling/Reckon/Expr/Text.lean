import Reckon.Expr.Basic
import Reckon.Value.Text

/-!
# Expressions as text

An expression is shown with each operator in front of its operands and
parentheses around both, as in `(+ 1 (* 2 3))`. The text is built in front of
the text that follows it, so that deep trees do not make it slow; the equations
below say what it is.
-/

namespace Reckon
namespace Expr

/-- The text of an expression, followed by another text. -/
def charsBefore : Expr -> List Char -> List Char
  | .literal v, tail => v.chars ++ tail
  | .step op operand, tail =>
      '(' :: op.symbol.toList ++ ' ' :: operand.charsBefore (')' :: tail)
  | .binary op left right, tail =>
      '(' :: op.symbol.toList ++
        ' ' :: left.charsBefore (' ' :: right.charsBefore (')' :: tail))

def chars (e : Expr) : List Char :=
  e.charsBefore []

def text (e : Expr) : String :=
  String.ofList e.chars

/-- Whether all literals of the expression can be shown. -/
def canShow : Expr -> Bool
  | .literal v => v.canShow
  | .step _ operand => operand.canShow
  | .binary _ left right => left.canShow && right.canShow

/-- What is written of an expression before the first literal that cannot be
shown. -/
def charsShown : Expr -> List Char
  | .literal v => if v.canShow then v.chars else []
  | .step op operand =>
      '(' :: op.symbol.toList ++ ' ' :: operand.charsShown ++
        if operand.canShow then [')'] else []
  | .binary op left right =>
      '(' :: op.symbol.toList ++ ' ' :: left.charsShown ++
        if left.canShow then
          ' ' :: right.charsShown ++ if right.canShow then [')'] else []
        else []

theorem charsBefore_append (e : Expr) (a b : List Char) :
    e.charsBefore (a ++ b) = e.charsBefore a ++ b := by
  induction e generalizing a with
  | literal v => simp [charsBefore]
  | step op operand ih => simp [charsBefore, ← ih]
  | binary op left right ihl ihr => simp [charsBefore, ← ihl, ← ihr]

theorem charsBefore_eq (e : Expr) (tail : List Char) :
    e.charsBefore tail = e.chars ++ tail :=
  charsBefore_append e [] tail

theorem chars_literal (v : Value) : (literal v).chars = v.chars := by
  simp [chars, charsBefore]

theorem chars_step (op : StepOp) (operand : Expr) :
    (step op operand).chars =
      '(' :: op.symbol.toList ++ ' ' :: operand.chars ++ [')'] := by
  simp [chars, charsBefore, charsBefore_eq operand [')']]

theorem chars_binary (op : BinaryOp) (left right : Expr) :
    (binary op left right).chars =
      '(' :: op.symbol.toList ++ ' ' :: left.chars ++ ' ' :: right.chars ++ [')'] := by
  rw [chars, charsBefore, charsBefore_eq left, charsBefore_eq right]
  simp

end Expr
end Reckon
