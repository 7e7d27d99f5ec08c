import Reckon.Decimal.Basic
import Reckon.Duration.Basic

/-!
# Values

What expressions are made of and what they evaluate to. Integers are exact and
unbounded; the other kinds are decimals, booleans, strings and durations.
-/

namespace Reckon

inductive Kind where
  | integer
  | decimal
  | boolean
  | string
  | duration
  deriving DecidableEq, Repr

def Kind.name : Kind -> String
  | .integer => "integer"
  | .decimal => "decimal"
  | .boolean => "boolean"
  | .string => "string"
  | .duration => "duration"

inductive Value where
  | integer (n : Int)
  | decimal (d : Decimal)
  | boolean (b : Bool)
  | string (s : String)
  | duration (d : Duration)
  deriving DecidableEq, Repr

namespace Value

def kind : Value -> Kind
  | .integer _ => .integer
  | .decimal _ => .decimal
  | .boolean _ => .boolean
  | .string _ => .string
  | .duration _ => .duration

/-- A number as a decimal; other kinds have none. -/
def asDecimal? : Value -> Option Decimal
  | .integer n => some (Decimal.ofInt n)
  | .decimal d => some d
  | _ => none

end Value
end Reckon
