import Reckon.Operator
import Reckon.Token.Position

/-!
# Tokens

A token is a stretch of the text together with its kind and its position. Words
reserved for the wider language are tokens of their own, although nothing can
be done with them yet.
-/

namespace Reckon

/-- What a literal token denotes. -/
inductive LiteralForm where
  | integer
  | decimal
  | string
  | duration
  | boolean (value : Bool)
  deriving DecidableEq, Repr

/-- A feature of the wider language that is not available. -/
inductive Feature where
  | variableDeclarations
  | constantDeclarations
  | functionDeclarations
  | structDeclarations
  | enumDeclarations
  | units
  | conditionals
  | forExpressions
  | filterExpressions
  | imports
  | typeAnnotations
  | variables
  | parentheses
  | arrays
  | structLiterals
  deriving DecidableEq, Repr

def Feature.name : Feature -> String
  | .variableDeclarations => "variable declarations"
  | .constantDeclarations => "constant declarations"
  | .functionDeclarations => "function declarations"
  | .structDeclarations => "struct declarations"
  | .enumDeclarations => "enum declarations"
  | .units => "units and unit conversion"
  | .conditionals => "conditional expressions"
  | .forExpressions => "for expressions"
  | .filterExpressions => "filter expressions"
  | .imports => "imports"
  | .typeAnnotations => "type annotations"
  | .variables => "variables"
  | .parentheses => "parenthesized expressions"
  | .arrays => "arrays"
  | .structLiterals => "struct literals"

/-- A mark that belongs to the wider language. -/
inductive Punctuation where
  | percent
  | leftParen
  | rightParen
  | leftBracket
  | rightBracket
  | leftBrace
  | rightBrace
  | comma
  | dot
  | equals
  deriving DecidableEq, Repr

def Punctuation.symbol : Punctuation -> String
  | .percent => "%"
  | .leftParen => "("
  | .rightParen => ")"
  | .leftBracket => "["
  | .rightBracket => "]"
  | .leftBrace => "\x7b"
  | .rightBrace => "\x7d"
  | .comma => ","
  | .dot => "."
  | .equals => "="

inductive TokenKind where
  | literal (form : LiteralForm)
  | binary (op : BinaryOp)
  | step (op : StepOp)
  | semicolon
  | punctuation (mark : Punctuation)
  | identifier
  /-- A reserved word, which introduces a feature. -/
  | keyword (feature : Feature)
  /-- White space and comments. -/
  | blank
  | endOfInput
  /-- A character or an open string that begins no token. -/
  | illegal
  deriving DecidableEq, Repr

namespace TokenKind

def name : TokenKind -> String
  | .literal .integer => "INTEGER"
  | .literal .decimal => "DECIMAL"
  | .literal .string => "STRING"
  | .literal .duration => "DURATION"
  | .literal (.boolean true) => "TRUE"
  | .literal (.boolean false) => "FALSE"
  | .binary .and => "AND"
  | .binary .or => "OR"
  | .binary op => op.symbol
  | .step op => op.symbol
  | .semicolon => ";"
  | .punctuation mark => mark.symbol
  | .identifier => "IDENT"
  | .keyword _ => "KEYWORD"
  | .blank => "WS"
  | .endOfInput => "EOF"
  | .illegal => "ILLEGAL"

/-- Whether a token of this kind stands for a value. -/
def isLiteral : TokenKind -> Bool
  | .literal _ => true
  | _ => false

/-- The binary operator that a token of this kind stands for. -/
def binaryOp? : TokenKind -> Option BinaryOp
  | .binary op => some op
  | _ => none

/-- The step that a token of this kind stands for. -/
def stepOp? : TokenKind -> Option StepOp
  | .step op => some op
  | _ => none

end TokenKind

/-- A stretch of a text with its kind and position. -/
structure Token where
  kind : TokenKind
  position : Position
  lexeme : List Char
  deriving DecidableEq, Repr

namespace Token

def text (t : Token) : String :=
  String.ofList t.lexeme

/-- The offset behind a token. -/
def stop (t : Token) : Nat :=
  t.position.offset + Text.byteLength t.lexeme

def span (t : Token) : Span :=
  ⟨t.position.offset, Text.byteLength t.lexeme⟩

/-- A token as it is told to the reader: by its text, or by the name of its kind
if the text is empty or blank. -/
def describe (t : Token) : String :=
  if t.lexeme.isEmpty || t.kind == .blank then t.kind.name else t.text

end Token
end Reckon
