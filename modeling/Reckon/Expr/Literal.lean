import Reckon.Decimal.Numeral
import Reckon.Duration.Numeral
import Reckon.Numeral.Integer
import Reckon.Text.Quoted
import Reckon.Token.Basic
import Reckon.Value.Basic

/-!
# Reading literals

The text of a literal token determines a value. The scanner does not look into
tokens closely enough to know that their text is well formed, so reading it can
still fail.
-/

namespace Reckon

inductive LiteralFault where
  | integer (fault : Numeral.Fault)
  | decimal (fault : Decimal.Fault)
  | string (fault : Text.QuotedFault)
  | duration (fault : Duration.Fault)
  deriving DecidableEq, Repr

namespace LiteralFault

/-- The kind of value that the literal was to denote. -/
def kind : LiteralFault -> Kind
  | .integer _ => .integer
  | .decimal _ => .decimal
  | .string _ => .string
  | .duration _ => .duration

def message : LiteralFault -> String
  | .integer fault => fault.message
  | .decimal fault => fault.message
  | .string fault => fault.message
  | .duration fault => fault.message

end LiteralFault

/-- The value of a literal of a form. -/
def LiteralForm.read (form : LiteralForm) (cs : List Char) : Except LiteralFault Value :=
  match form with
  | .integer =>
      match Numeral.integerOfChars cs with
      | .ok n => .ok (.integer n)
      | .error fault => .error (.integer fault)
  | .decimal =>
      match Decimal.ofChars cs with
      | .ok d => .ok (.decimal d)
      | .error fault => .error (.decimal fault)
  | .string =>
      match Text.unquote cs with
      | .ok body => .ok (.string (String.ofList body))
      | .error fault => .error (.string fault)
  | .duration =>
      match Duration.ofChars cs with
      | .ok d => .ok (.duration d)
      | .error fault => .error (.duration fault)
  | .boolean b => .ok (.boolean b)

end Reckon
