import Reckon.Decimal.Basic

/-!
# Decimal division

The quotient of two decimals is found on magnitudes: the numerator is scaled up
until the integer quotient has `precision` digits, and the next digit decides
the rounding, a half going away from zero. The sign is put back afterwards. A
quotient whose whole part is already longer than that is rounded to a whole
number only. A unit is no divisor to speak of: the numerator stays as it is, and
keeps digits that a division would have rounded off.
-/

namespace Reckon
namespace Decimal

open Numeral (tenPow)

/-- The least power of ten that lifts `n` to at least `m`, for `n` not zero. -/
def leastShift (n m : Nat) : Nat :=
  let shift := Numeral.digitCount m - Numeral.digitCount n
  if n * tenPow shift < m then shift + 1 else shift

/-- The integer quotient, rounded to the nearest, a half upwards. -/
def roundedQuotient (n m : Nat) : Nat :=
  n / m + if m ≤ 2 * (n % m) then 1 else 0

/-- The quotient of two decimals, the divisor not being zero. -/
def quotient (a b : Decimal) : Decimal :=
  if a.isZero || b.isUnit then a
  else
    let n := a.coefficient.natAbs
    let m := b.coefficient.natAbs
    let shift := leastShift n m
    let extra := precision - Numeral.digitCount (n * tenPow shift / m)
    let magnitude := roundedQuotient (n * tenPow (shift + extra)) m
    ⟨a.coefficient.sign * b.coefficient.sign * magnitude,
      a.scale - b.scale + shift + extra⟩

/-- Division to the working precision, or nothing if the divisor is zero. -/
def div? (a b : Decimal) : Option Decimal :=
  if b.isZero then none else some (toPrecision precision (quotient a b))

/-- The reciprocal to the working precision, or nothing for zero. -/
def inverse? (d : Decimal) : Option Decimal :=
  div? (ofInt 1) d

end Decimal
end Reckon
