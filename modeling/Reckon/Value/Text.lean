import Reckon.Decimal.Range
import Reckon.Duration.Text
import Reckon.Numeral.Integer
import Reckon.Text.Quoted
import Reckon.Value.Basic

/-!
# Values as text

Integers are written in full, decimals in scientific notation, strings between
quotes and durations by their units.
-/

namespace Reckon
namespace Value

def chars : Value -> List Char
  | .integer n => Numeral.integerChars n
  | .decimal d => d.chars
  | .boolean true => ['t', 'r', 'u', 'e']
  | .boolean false => ['f', 'a', 'l', 's', 'e']
  | .string s => Text.quote s.toList
  | .duration d => d.chars

def text (v : Value) : String :=
  String.ofList v.chars

/-- Whether the value can be shown. Only decimals can be outside the range of what is. -/
def canShow : Value -> Bool
  | .decimal d => d.canShow
  | _ => true

end Value
end Reckon
