import Reckon.Expr.Basic
import Reckon.Expr.Error
import Reckon.Token.Source

/-!
# Reading expressions

An expression is a chain of operands joined by binary operators, the last of
which may carry a postfix step. Operands are literals, and signed numbers. The
chain is read from left to right and its tree assembled from right to left.

Reading goes on after an error, so every function returns the state behind what
it has read, be that an expression or not.
-/

namespace Reckon

/-- What one attempt to read an expression comes to. -/
inductive Parsed where
  | expression (e : Expr)
  | endOfStatement
  | endOfInput
  deriving DecidableEq, Repr

/-- The number of operators that one expression may have, unless said otherwise. -/
def defaultMaxDepth : Nat := 256

namespace Parser

open TokenSource

variable {σ : Type} [TokenSource σ]

/-- The start of a statement: an operand, or nothing more. -/
inductive Start where
  | operand (v : Value)
  | endOfStatement
  | endOfInput
  deriving DecidableEq, Repr

def expectedAtStart : List String := ["literal", "+", "-", ";"]

def expectedAfterSign : List String := ["INTEGER", "DECIMAL", "DURATION"]

def expectedAfterOperator : List String := ["expression"]

/-- Reads the text of a literal that starts at a position. -/
def readLiteral (form : LiteralForm) (cs : List Char) (position : Position) (span : Span) :
    Except SyntaxError Start :=
  match form.read cs with
  | .ok v => .ok (.operand v)
  | .error fault => .error ⟨.malformed (String.ofList cs) fault, position, span⟩

/-- The form of a number, which a sign can stand in front of. -/
def numberForm? : TokenKind -> Option LiteralForm
  | .literal .integer => some .integer
  | .literal .decimal => some .decimal
  | .literal .duration => some .duration
  | _ => none

/-- Reads the number behind a sign, and takes the sign for a part of it. -/
def readSigned (sign : Token) (s : σ) : Except SyntaxError Start × σ :=
  let number := scanWord s
  match numberForm? number.1.kind with
  | some form =>
      let span := ⟨sign.position.offset, number.1.stop - sign.position.offset⟩
      (readLiteral form (sign.lexeme ++ number.1.lexeme) sign.position span, number.2)
  | none => (.error (.unexpected sign expectedAfterSign), unscan number.2)

def isSign (kind : TokenKind) : Bool :=
  kind == .binary .add || kind == .binary .sub

/-- What a token that is no sign means at the start of a statement. -/
def readToken (first : Token) : Except SyntaxError Start :=
  match first.kind with
  | .literal form => readLiteral form first.lexeme first.position first.span
  | .semicolon => .ok .endOfStatement
  | .endOfInput => .ok .endOfInput
  | .keyword feature => .error (.notImplemented feature first)
  | .identifier => .error (.notImplemented .variables first)
  | .punctuation .leftParen => .error (.notImplemented .parentheses first)
  | .punctuation .leftBracket => .error (.notImplemented .arrays first)
  | .punctuation .leftBrace => .error (.notImplemented .structLiterals first)
  | _ => .error (.unexpected first expectedAtStart)

/-- Reads what begins with a token, the state being behind that token. -/
def readStart (first : Token) (s : σ) : Except SyntaxError Start × σ :=
  if isSign first.kind then readSigned first s else (readToken first, s)

/-- Whether nothing can be read from a token on. -/
def endsStatement (kind : TokenKind) : Bool :=
  kind == .semicolon || kind == .endOfInput

/-- Reads an expression, as part of a chain that `room` more operands fit in. -/
def parseWithin (limit : Nat) : Nat -> σ -> Except SyntaxError Parsed × σ
  | 0, s =>
      let first := scanWord s
      (.error (.atToken (.tooDeep limit) first.1), first.2)
  | room + 1, s =>
      let first := scanWord s
      match readStart first.1 first.2 with
      | (.error e, s) => (.error e, s)
      | (.ok .endOfStatement, s) => (.ok .endOfStatement, s)
      | (.ok .endOfInput, s) => (.ok .endOfInput, s)
      | (.ok (.operand v), s) =>
          let next := scanWord s
          match next.1.kind with
          | .step op => (.ok (.expression (.step op (.literal v))), next.2)
          | .binary op =>
              let ahead := scanWord next.2
              let s := unscan ahead.2
              if endsStatement ahead.1.kind then
                (.error (.unexpected ahead.1 expectedAfterOperator), s)
              else
                match parseWithin limit room s with
                | (.ok (.expression rhs), s) =>
                    (.ok (.expression (.graft op (.literal v) rhs)), s)
                | (.ok _, s) => (.error (.unexpected ahead.1 expectedAfterOperator), s)
                | (.error e, s) => (.error e, s)
          | _ => (.ok (.expression (.literal v)), unscan next.2)

/-- Reads the next expression, or the end of a statement or of the input. -/
def parse (limit : Nat) (s : σ) : Except SyntaxError Parsed × σ :=
  parseWithin limit (limit + 1) s

/-- Passes over everything up to and including the next semicolon. -/
def skipStatement (s : σ) : σ :=
  let next := scanWord s
  if next.1.kind = .semicolon then next.2
  else if h : next.1.kind = .endOfInput then unscan next.2
  else
    have : remaining next.2 < remaining s := remaining_scanWord_lt h
    skipStatement next.2
termination_by remaining s

end Parser
end Reckon
