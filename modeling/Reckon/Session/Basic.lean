import Reckon.Expr.Evaluation
import Reckon.Expr.Statements
import Reckon.Expr.Text
import Reckon.Failure
import Reckon.Token.Buffer

/-!
# Sessions

A session answers lines of input. Between lines it keeps nothing but the number
of expressions that it has evaluated.
-/

namespace Reckon

structure Settings where
  /-- The number of operators that one expression may have. -/
  maxDepth : Nat := defaultMaxDepth
  /-- The deepest level of an expression that is evaluated. -/
  evalDepth : Nat := defaultEvalDepth
  /-- Whether output is coloured. -/
  color : Bool := false
  /-- What is written before each line is read. -/
  prompt : String := "ħ >>> "
  /-- The name of the text in reports. -/
  sourceName : String := "<input>"
  deriving DecidableEq, Repr

inductive Response where
  | value (text : String)
  | failure (f : Failure)
  /-- There is none: reading, evaluating or showing the expression trapped. -/
  | trap
  deriving DecidableEq, Repr

inductive Reply where
  | quit
  | responses (rs : List Response)
  /-- The line is not answered, and neither is any line behind it. -/
  | trap
  deriving DecidableEq, Repr

structure Session where
  settings : Settings
  evaluated : Nat
  deriving DecidableEq, Repr

namespace Session

/-- A session in which nothing has been evaluated. -/
def new (settings : Settings) : Session := ⟨settings, 0⟩

def statements (settings : Settings) (line : List Char) :
    List (Except SyntaxError Expr) :=
  Parser.statements settings.maxDepth (TokenBuffer.ofChars line)

/-- The response to what an expression evaluates to. -/
def respondTo : Except EvalError Value -> Response
  | .ok v => if v.canShow then .value v.text else .trap
  | .error e => if e = .trap then .trap else .failure (.evaluation e)

/-- The response to an expression or to an error. -/
def respond (settings : Settings) : Except SyntaxError Expr -> Response
  | .error e => if e.fault.isTrap then .trap else .failure (.text e)
  | .ok expr => respondTo (expr.evaluate settings.evalDepth)

/-- The responses to all that is found in a line, taken together: a trap leaves
none of them. -/
def replyOf (rs : List Response) : Reply :=
  if .trap ∈ rs then .trap else .responses rs

/-- Whether a statement could be read, and so is evaluated. -/
def isExpression : Except SyntaxError Expr -> Bool
  | .ok _ => true
  | .error _ => false

/-- A line without the line ends behind it. -/
def trimLineEnds (line : List Char) : List Char :=
  (line.reverse.dropWhile fun c => c == '\n' || c == '\r').reverse

def isFarewell (line : List Char) : Bool :=
  line == ['q', 'u', 'i', 't'] || line == ['e', 'x', 'i', 't']

/-- Answers one line. Only a line that is exactly `quit` or `exit` leaves the
session, and a blank line has no responses. -/
def feedLine (s : Session) (line : List Char) : Reply × Session :=
  let line := trimLineEnds line
  if isFarewell line then (.quit, s)
  else if line.all Unicode.isWhiteSpace then (.responses [], s)
  else
    let found := statements s.settings line
    match replyOf (found.map (respond s.settings)) with
    | .responses rs =>
        (.responses rs, { s with evaluated := s.evaluated + found.countP isExpression })
    | reply => (reply, s)

end Session
end Reckon
