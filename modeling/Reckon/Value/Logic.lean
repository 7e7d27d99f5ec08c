import Reckon.Value.Arithmetic

/-!
# Bits, truth and order of values

Bitwise operations on integers, logic on booleans, and comparison. Integers and
decimals are compared as numbers; otherwise only values of one kind can be
compared, and booleans only for equality.
-/

namespace Reckon
namespace Value

def shiftCount (op : BinaryOp) (count : Int) : Except EvalError Nat :=
  if 0 ≤ count ∧ count ≤ maxShift then .ok count.natAbs
  else .error (.invalidOperand op (.shiftOutOfRange count))

/-- A shift to the left, unless the result would be too large. -/
def shiftLeft (op : BinaryOp) (a : Int) (count : Nat) : Except EvalError Value :=
  if a ≠ 0 ∧ isTooWide (Integer.bitLength a + count) then .error (.overflow op)
  else .ok (.integer (Integer.shiftLeft a count))

def bitwise (op : BinaryOp) (l r : Value) : Except EvalError Value :=
  match l, r with
  | .integer a, .integer b =>
      match op with
      | .bitAnd => .ok (.integer (Integer.land a b))
      | .bitOr => .ok (.integer (Integer.lor a b))
      | .bitXor => .ok (.integer (Integer.lxor a b))
      | .shiftLeft =>
          match shiftCount op b with
          | .ok count => shiftLeft op a count
          | .error e => .error e
      | .shiftRight =>
          match shiftCount op b with
          | .ok count => .ok (.integer (Integer.shiftRight a count))
          | .error e => .error e
      | _ => .error (unsupported op l r)
  | _, _ => .error (unsupported op l r)

def logical (op : BinaryOp) (l r : Value) : Except EvalError Value :=
  match l, r, op with
  | .boolean a, .boolean b, .and => .ok (.boolean (a && b))
  | .boolean a, .boolean b, .or => .ok (.boolean (a || b))
  | _, _, _ => .error (unsupported op l r)

/-- Whether an operator asks only whether its operands are equal. -/
def isEqualityTest (op : BinaryOp) : Bool :=
  op == .eq || op == .ne

def orderResult (order? : Option Ordering) : Except EvalError Ordering :=
  match order? with
  | some order => .ok order
  | none => .error .trap

def ordering (op : BinaryOp) (l r : Value) : Except EvalError Ordering :=
  let asNumbers :=
    match promote op l r with
    | .ok (a, b) => orderResult (a.compare? b)
    | .error e => .error e
  match l, r with
  | .integer a, .integer b => .ok (compare a b)
  | .string a, .string b => .ok (compare a b)
  | .duration a, .duration b => .ok (compare a.nanoseconds b.nanoseconds)
  | .boolean a, .boolean b => if isEqualityTest op then .ok (compare a b) else asNumbers
  | _, _ => asNumbers

/-- Whether a comparison holds for operands of that order. Other operators ask
no such question. -/
def holds? (op : BinaryOp) (order : Ordering) : Option Bool :=
  match op with
  | .eq => some order.isEq
  | .ne => some order.isNe
  | .lt => some order.isLT
  | .le => some order.isLE
  | .gt => some order.isGT
  | .ge => some order.isGE
  | _ => none

def comparison (op : BinaryOp) (l r : Value) : Except EvalError Value :=
  match ordering op l r with
  | .error e => .error e
  | .ok order =>
      match holds? op order with
      | some b => .ok (.boolean b)
      | none => .error (unsupported op l r)

end Value
end Reckon
