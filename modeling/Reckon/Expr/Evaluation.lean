import Reckon.Expr.Parser
import Reckon.Value.Apply

/-!
# Evaluating expressions

Operands are evaluated from left to right before their operator is applied,
without short cuts. A subexpression below the deepest level allowed is not
evaluated.
-/

namespace Reckon

/-- The deepest level that is evaluated, unless said otherwise. It leaves room
for every expression that is read under `defaultMaxDepth`. -/
def defaultEvalDepth : Nat := 2 * defaultMaxDepth

namespace Expr

/-- The value of a subexpression that stands at a level. -/
def evaluateAt (limit level : Nat) (e : Expr) : Except EvalError Value :=
  if limit < level then .error (.tooDeep limit)
  else
    match e with
    | .literal v => .ok v
    | .step op operand =>
        match operand.evaluateAt limit (level + 1) with
        | .ok v => v.applyStep op
        | .error e => .error e
    | .binary op left right =>
        match left.evaluateAt limit (level + 1) with
        | .error e => .error e
        | .ok l =>
            match right.evaluateAt limit (level + 1) with
            | .ok r => l.apply op r
            | .error e => .error e

def evaluate (limit : Nat) (e : Expr) : Except EvalError Value :=
  e.evaluateAt limit 0

end Expr
end Reckon
