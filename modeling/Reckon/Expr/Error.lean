import Reckon.Expr.Literal

/-!
# Errors in a text

What is wrong with a text, apart from where it is wrong. Two texts that differ
only in their layout are wrong in the same way at different places.
-/

namespace Reckon

inductive SyntaxFault where
  /-- Something stands where something else should stand. -/
  | unexpected (found : String) (expected : List String)
  /-- A literal cannot be read. -/
  | malformed (text : String) (fault : LiteralFault)
  /-- A feature of the wider language is used. -/
  | notImplemented (feature : Feature) (found : String)
  /-- An expression has more operators than the limit. -/
  | tooDeep (limit : Nat)
  deriving DecidableEq, Repr

def SyntaxFault.message : SyntaxFault -> String
  | .unexpected found [] => s!"unexpected `{found}`"
  | .unexpected found expected =>
      let list := String.intercalate ", " expected
      s!"found `{found}`, expected {list}"
  | .malformed text fault =>
      s!"malformed {fault.kind.name} literal `{text}`: {fault.message}"
  | .notImplemented feature found =>
      s!"{feature.name} are not implemented (found `{found}`)"
  | .tooDeep limit => s!"expression nests deeper than {limit} levels"

/-- Whether reading broke off at a literal, which is not reported. -/
def SyntaxFault.isTrap : SyntaxFault -> Bool
  | .malformed _ (.duration .trap) => true
  | _ => false

structure SyntaxError where
  fault : SyntaxFault
  position : Position
  span : Span
  deriving DecidableEq, Repr

namespace SyntaxError

def message (e : SyntaxError) : String :=
  s!"{e.fault.message} at {e.position.describe}"

def atToken (fault : SyntaxFault) (t : Token) : SyntaxError :=
  ⟨fault, t.position, t.span⟩

/-- A token that stands where something else should stand. -/
def unexpected (t : Token) (expected : List String) : SyntaxError :=
  atToken (.unexpected t.describe expected) t

/-- A token that uses a feature of the wider language. -/
def notImplemented (feature : Feature) (t : Token) : SyntaxError :=
  atToken (.notImplemented feature t.text) t

end SyntaxError
end Reckon
