import Reckon.Decimal.Scientific
import Reckon.Numeral.Integer
import Reckon.Operator
import Reckon.Value.Basic

/-!
# Evaluation errors

Every way in which an operation on values can fail, with its wording. A trap is not
a failure of that kind: it is never reported, and ends everything that the operation
is a part of.
-/

namespace Reckon

/-- The largest shift count, two to the power of 20. -/
def maxShift : Nat := 1048576

inductive OperandFault where
  /-- The exponent has too many digits before its point to be considered. -/
  | exponentTooLong (exponent : Decimal)
  /-- The exponent is too large a whole number. -/
  | exponentOutOfRange (exponent : Int)
  /-- The exponent is not a whole number. -/
  | exponentNotWhole
  /-- The shift count is negative or larger than `maxShift`. -/
  | shiftOutOfRange (count : Int)
  deriving DecidableEq, Repr

def OperandFault.message : OperandFault -> String
  | .exponentTooLong exponent =>
      s!"exponent {String.ofList exponent.chars} is out of range"
  | .exponentOutOfRange exponent =>
      s!"exponent {String.ofList (Numeral.integerChars exponent)} is out of range"
  | .exponentNotWhole => "exponent must be a whole number"
  | .shiftOutOfRange count =>
      s!"shift count {String.ofList (Numeral.integerChars count)} must be between 0 and {maxShift}"

inductive EvalError where
  /-- The operator does not apply to operands of these kinds. -/
  | unsupported (op : BinaryOp) (left right : Kind)
  /-- The step does not apply to an operand of this kind. -/
  | unsupportedStep (op : StepOp) (operand : Kind)
  | divisionByZero
  /-- The result would be too large. -/
  | overflow (op : BinaryOp)
  | invalidOperand (op : BinaryOp) (fault : OperandFault)
  /-- The expression has more levels than the limit. -/
  | tooDeep (limit : Nat)
  /-- The arithmetic of scales leaves its range. -/
  | trap
  deriving DecidableEq, Repr

def EvalError.message : EvalError -> String
  | .unsupported op left right =>
      s!"operator `{op.symbol}` is not supported for {left.name} and {right.name}"
  | .unsupportedStep op operand =>
      s!"operator `{op.symbol}` is not supported for {operand.name}"
  | .divisionByZero => "division by zero"
  | .overflow op => s!"result of `{op.symbol}` is out of range"
  | .invalidOperand op fault => s!"invalid operand for `{op.symbol}`: {fault.message}"
  | .tooDeep limit => s!"expression nests deeper than {limit} levels"
  | .trap => "arithmetic overflow"

end Reckon
