import Reckon.Value.Logic

/-!
# Applying operators

Which operators a kind of value supports on its left, and what an operator does
to two values.
-/

namespace Reckon

/-- Whether values of a kind can stand on the left of an operator at all. -/
def Kind.supports (kind : Kind) (op : BinaryOp) : Bool :=
  match kind, op.family with
  | .integer, .logical => false
  | .integer, _ => true
  | .decimal, .arithmetic => true
  | .decimal, .comparison => true
  | .decimal, _ => false
  | .boolean, .logical => true
  | .boolean, _ => Value.isEqualityTest op
  | .string, .comparison => true
  | .string, _ => op == .add
  | .duration, .comparison => true
  | .duration, _ => op == .add || op == .sub

namespace Value

/-- The result of an operator, whatever the kind of its left operand. -/
def perform (op : BinaryOp) (l r : Value) : Except EvalError Value :=
  match op with
  | .add => add op l r
  | .sub => sub op l r
  | .mul => mul op l r
  | .div => div op l r
  | .pow => pow op l r
  | .bitAnd | .bitOr | .bitXor | .shiftLeft | .shiftRight => bitwise op l r
  | .and | .or => logical op l r
  | .eq | .ne | .lt | .le | .gt | .ge => comparison op l r

def apply (op : BinaryOp) (l r : Value) : Except EvalError Value :=
  if l.kind.supports op then perform op l r else .error (unsupported op l r)

/-- A number moved by a whole number. Other kinds cannot be moved. -/
def step? (delta : Int) : Value -> Option (Except EvalError Value)
  | .integer n => some (.ok (.integer (n + delta)))
  | .decimal d => some (decimalResult (d.sum? (Decimal.ofInt delta)))
  | _ => none

def applyStep (op : StepOp) (v : Value) : Except EvalError Value :=
  match v.step? op.delta with
  | some result => result
  | none => .error (.unsupportedStep op v.kind)

end Value
end Reckon
