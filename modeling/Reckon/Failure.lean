import Reckon.Expr.Error
import Reckon.Value.Error

/-!
# Failures

Whatever can go wrong with one expression, with the words, the code, the advice
and the label under which it is reported.
-/

namespace Reckon

structure Label where
  span : Span
  remark : String
  deriving DecidableEq, Repr

namespace SyntaxFault

def code : SyntaxFault -> String
  | .unexpected .. => "calc::parse"
  | .malformed .. => "calc::malformed_literal"
  | .notImplemented .. => "calc::not_implemented"
  | .tooDeep _ => "calc::too_deep"

def help? : SyntaxFault -> Option String
  | .unexpected .. => none
  | .malformed _ fault => some s!"check the literal against the {fault.kind.name} grammar"
  | .notImplemented .. =>
      some "only literals combined with operators can be evaluated"
  | .tooDeep _ => some "split the expression or raise --max-depth"

/-- The remark on the place where something is wrong. -/
def remark : SyntaxFault -> String
  | .unexpected .. => "here"
  | .malformed _ fault => s!"this {fault.kind.name} literal"
  | .notImplemented .. => "not supported yet"
  | .tooDeep _ => "limit reached here"

end SyntaxFault

/-- The code of an evaluation error. A trap is never reported and has none. -/
def EvalError.code : EvalError -> String
  | .unsupported .. => "calc::unsupported_operation"
  | .unsupportedStep .. => "calc::unsupported_operation"
  | .divisionByZero => "calc::division_by_zero"
  | .overflow _ => "calc::overflow"
  | .invalidOperand .. => "calc::invalid_operand"
  | .tooDeep _ => "calc::too_deep"
  | .trap => ""

/-- What went wrong with an expression: its text, or its evaluation. -/
inductive Failure where
  | text (e : SyntaxError)
  | evaluation (e : EvalError)
  deriving DecidableEq, Repr

namespace Failure

def message : Failure -> String
  | .text e => e.message
  | .evaluation e => e.message

def code : Failure -> String
  | .text e => e.fault.code
  | .evaluation e => e.code

def help? : Failure -> Option String
  | .text e => e.fault.help?
  | .evaluation _ => none

def label? : Failure -> Option Label
  | .text e => some ⟨e.span, e.fault.remark⟩
  | .evaluation _ => none

end Failure
end Reckon
