import Reckon.Decimal.Basic

/-!
# Decimal powers

Powers by repeated squaring, each product being brought to the working
precision. A unit among the factors leaves the other one, in normal form: this
is the same number, and differs from the plain product only in the scale of
zero.
-/

namespace Reckon
namespace Decimal

/-- The product before it is rounded. -/
def plainProduct (a b : Decimal) : Decimal :=
  if a.isUnit then b.normalized else if b.isUnit then a.normalized else a * b

def roundedProduct (a b : Decimal) : Decimal :=
  toPrecision precision (plainProduct a b)

/-- Multiplies `result` by `square` to the power of `exponent`. -/
def powerLoop (result square : Decimal) (exponent : Nat) : Decimal :=
  if exponent = 0 then result
  else
    let result := if exponent % 2 = 1 then roundedProduct result square else result
    let rest := exponent / 2
    let square := if rest = 0 then square else roundedProduct square square
    powerLoop result square rest
termination_by exponent
decreasing_by omega

def power (base : Decimal) (exponent : Nat) : Decimal :=
  powerLoop (ofInt 1) base exponent

end Decimal
end Reckon
