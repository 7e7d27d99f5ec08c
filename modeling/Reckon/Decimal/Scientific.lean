import Reckon.Decimal.Basic
import Reckon.Numeral.Integer

/-!
# Scientific notation

A decimal is shown as one digit, a point, fifteen digits, and an exponent with
a sign and at least two digits, as in `-1.250000000000000E-07`. Zero is shown
with all digits zero and exponent zero.
-/

namespace Reckon
namespace Decimal

def shownDigits : Nat := 16

/-- The decimal rounded to the digits that are shown. -/
def shown (d : Decimal) : Decimal :=
  toPrecision shownDigits d

def shownExponent (d : Decimal) : Int :=
  if d.shown.isZero then 0 else d.shown.leadingExponent

def mantissaDigits (d : Decimal) : List Char :=
  ((Numeral.digits d.shown.coefficient.natAbs).take shownDigits).rightpad shownDigits '0'

/-- The exponent mark, the sign of the exponent and at least two digits. -/
def exponentChars (exponent : Int) : List Char :=
  let sign := if exponent < 0 then '-' else '+'
  'E' :: sign :: (Numeral.digits exponent.natAbs).leftpad 2 '0'

def chars (d : Decimal) : List Char :=
  let sign := if d.shown.isNegative then ['-'] else []
  sign ++ d.mantissaDigits.take 1 ++ '.' :: d.mantissaDigits.drop 1 ++
    exponentChars d.shownExponent

end Decimal
end Reckon
