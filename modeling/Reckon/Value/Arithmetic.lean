import Reckon.Decimal.Power
import Reckon.Decimal.Range
import Reckon.Integer.Bits
import Reckon.Value.Error

/-!
# Arithmetic on values

Two integers give an integer; an integer beside a decimal is taken as a
decimal. Strings can be joined, and durations added and subtracted. Products,
powers and shifts of integers are refused before they are computed if they
would be too large. Decimals whose scales leave their range are not refused: the
operation traps.

Each operation is told which operator it is performed for, so that it can name
that operator when it fails.
-/

namespace Reckon

/-- The largest size in bits that is foreseen for an integer result, two to the
power of 20. -/
def maxIntegerBits : Nat := 1048576

/-- The largest decimal exponent that is foreseen for a power, two to the power
of 40. -/
def maxDecimalExponent : Nat := 1099511627776

/-- Exponents stay below this number, two to the power of 32. -/
def exponentLimit : Nat := 4294967296

namespace Value

/-- The error for operands that the operator does not apply to. -/
def unsupported (op : BinaryOp) (l r : Value) : EvalError :=
  .unsupported op l.kind r.kind

/-- Both operands as decimals, where both are numbers. -/
def promote (op : BinaryOp) (l r : Value) : Except EvalError (Decimal × Decimal) :=
  match l.asDecimal?, r.asDecimal? with
  | some a, some b => .ok (a, b)
  | _, _ => .error (unsupported op l r)

/-- Whether an integer result of that many bits is refused. -/
def isTooWide (bits : Nat) : Bool :=
  maxIntegerBits < bits

def durationResult (op : BinaryOp) (d? : Option Duration) : Except EvalError Value :=
  match d? with
  | some d => .ok (.duration d)
  | none => .error (.overflow op)

def decimalResult (d? : Option Decimal) : Except EvalError Value :=
  match d? with
  | some d => .ok (.decimal d)
  | none => .error .trap

def quotientResult (d? : Option Decimal) : Except EvalError Value :=
  match d? with
  | some d => .ok (.decimal d)
  | none => .error .divisionByZero

def add (op : BinaryOp) (l r : Value) : Except EvalError Value :=
  match l, r with
  | .integer a, .integer b => .ok (.integer (a + b))
  | .string a, .string b => .ok (.string (a ++ b))
  | .duration a, .duration b => durationResult op (a.add? b)
  | _, _ =>
      match promote op l r with
      | .ok (a, b) => decimalResult (a.sum? b)
      | .error e => .error e

def sub (op : BinaryOp) (l r : Value) : Except EvalError Value :=
  match l, r with
  | .integer a, .integer b => .ok (.integer (a - b))
  | .duration a, .duration b => durationResult op (a.sub? b)
  | _, _ =>
      match promote op l r with
      | .ok (a, b) => decimalResult (a.sum? (-b))
      | .error e => .error e

/-- The product of two values. The sizes of two integers add up to the size of
their product or one more. -/
def mul (op : BinaryOp) (l r : Value) : Except EvalError Value :=
  match l, r with
  | .integer a, .integer b =>
      if isTooWide (Integer.bitLength a + Integer.bitLength b - 1) then
        .error (.overflow op)
      else .ok (.integer (a * b))
  | _, _ =>
      match promote op l r with
      | .ok (a, b) => decimalResult (a.mul? b)
      | .error e => .error e

def decimalQuotient (a b : Decimal) : Except EvalError Value :=
  if a.canDivide b then quotientResult (a.div? b) else .error .trap

/-- The quotient of two values. That of two integers is cut toward zero. -/
def div (op : BinaryOp) (l r : Value) : Except EvalError Value :=
  match l, r with
  | .integer a, .integer b =>
      if b = 0 then .error .divisionByZero else .ok (.integer (a.tdiv b))
  | _, _ =>
      match promote op l r with
      | .ok (a, b) => decimalQuotient a b
      | .error e => .error e

/-!
## Powers

The exponent has to be a whole number, as an integer or as a decimal. A
negative exponent gives the reciprocal of the power, as a decimal. The place of
the first digit is asked for first, of a decimal exponent and then of a decimal
base, and an exponent that is refused for its size is shown in the error.
-/

def wholeExponent (op : BinaryOp) (l r : Value) : Except EvalError Int :=
  match r with
  | .integer n => .ok n
  | .decimal d =>
      if d.isZero then .ok 0
      else if !d.hasPlace then .error .trap
      else if 10 < d.leadingExponent then
        if d.canShow then .error (.invalidOperand op (.exponentTooLong d))
        else .error .trap
      else if 0 ≤ d.leadingExponent && d.isWhole then .ok d.truncate
      else .error (.invalidOperand op .exponentNotWhole)
  | _ => .error (unsupported op l r)

def integerPower (op : BinaryOp) (base exponent : Int) : Except EvalError Value :=
  let magnitude := exponent.natAbs
  if isTooWide ((Integer.bitLength base - 1) * magnitude) then .error (.overflow op)
  else if exponent < 0 then
    quotientResult (Decimal.ofInt (Int.pow base magnitude)).inverse?
  else .ok (.integer (Int.pow base magnitude))

def decimalPower (op : BinaryOp) (base : Decimal) (exponent : Int) :
    Except EvalError Value :=
  let magnitude := exponent.natAbs
  if !base.hasPlace then .error .trap
  else if maxDecimalExponent < (base.leadingExponent.natAbs + 1) * magnitude then
    .error (.overflow op)
  else if exponent < 0 then quotientResult (base.power magnitude).inverse?
  else .ok (.decimal (base.power magnitude))

def pow (op : BinaryOp) (l r : Value) : Except EvalError Value :=
  match wholeExponent op l r with
  | .error e => .error e
  | .ok exponent =>
      if exponentLimit ≤ exponent.natAbs then
        .error (.invalidOperand op (.exponentOutOfRange exponent))
      else
        match l with
        | .integer base => integerPower op base exponent
        | .decimal base => decimalPower op base exponent
        | _ => .error (unsupported op l r)

end Value
end Reckon
