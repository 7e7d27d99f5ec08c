import Reckon.Decimal.Division
import Reckon.Decimal.Numeral
import Reckon.Decimal.Scientific

/-!
# The range of scales

Scales are signed 64-bit integers, and so are the places of first digits. An operation for
which one of them would have to leave this range traps: it has no result. The operations
themselves are told for scales of any size; here it is said when they trap.

Powers do not ask. They are raised only behind a limit on the base and the exponent that
keeps all scales on the way within the range.
-/

namespace Reckon
namespace Decimal

/-- Whether the place of the first digit lies in the range. -/
def hasPlace (d : Decimal) : Bool :=
  isScale d.leadingExponent

/-- Whether the decimal can be brought to a number of digits. -/
def canRound (digits : Nat) (d : Decimal) : Bool :=
  isScale (d.scale + digits - d.digitCount)

/-- Whether a sum can be formed. Beside zero nothing is asked. Operands with places that
are far apart can always be rounded. -/
def canAdd (a b : Decimal) : Bool :=
  a.isZero || b.isZero || (a.hasPlace && b.hasPlace)

def sum? (a b : Decimal) : Option Decimal :=
  if canAdd a b then some (a.sum b) else none

/-- Whether a product can be formed. Nothing is asked beside a unit. -/
def canMultiply (a b : Decimal) : Bool :=
  a.isUnit || b.isUnit || isScale (a.scale + b.scale)

def mul? (a b : Decimal) : Option Decimal :=
  if canMultiply a b then some (a * b) else none

/-- Whether two decimals can be divided. The difference of the scales comes first, then
the scale goes up with each digit of the quotient, which is rounded in the end. -/
def canDivide (a b : Decimal) : Bool :=
  b.isZero ||
    ((a.isZero || b.isUnit ||
        (isScale (a.scale - b.scale) && isScale (quotient a b).scale)) &&
      canRound precision (quotient a b))

/-- Whether two decimals can be compared. Nothing is asked if the signs tell. -/
def canCompare (a b : Decimal) : Bool :=
  a.coefficient.sign != b.coefficient.sign || a.isZero || (a.hasPlace && b.hasPlace)

def compare? (a b : Decimal) : Option Ordering :=
  if canCompare a b then some (a.compare b) else none

/-- Whether the decimal can be shown. -/
def canShow (d : Decimal) : Bool :=
  canRound shownDigits d && (d.shown.isZero || d.shown.hasPlace)

end Decimal
end Reckon
