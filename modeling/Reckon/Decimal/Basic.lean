import Reckon.Numeral.Digits

/-!
# Decimals

A decimal is an integer coefficient together with a scale, and stands for
`coefficient * 10 ^ (-scale)`. Many pairs stand for the same number. Sums and
products are exact as long as their operands are of comparable size; everything
else is kept to `precision` significant digits.
-/

namespace Reckon

/-- The number `coefficient * 10 ^ (-scale)`. -/
structure Decimal where
  coefficient : Int
  scale : Int
  deriving DecidableEq, Repr

namespace Decimal

open Numeral (tenPow)

/-- Significant digits kept where a result cannot be exact. -/
def precision : Nat := 100

def ofInt (n : Int) : Decimal := ⟨n, 0⟩

/-- Whether the decimal is zero, at any scale. -/
def isZero (d : Decimal) : Bool :=
  d.coefficient == 0

def isNegative (d : Decimal) : Bool :=
  d.coefficient < 0

/-- The number of digits of the coefficient. Zero has one. -/
def digitCount (d : Decimal) : Nat :=
  Numeral.digitCount d.coefficient.natAbs

/-- The power of ten of the first digit: 3 for `1234.5` and -2 for `0.01`. -/
def leadingExponent (d : Decimal) : Int :=
  d.digitCount - 1 - d.scale

/-- The most decimal places with which a one is still recognised by its digits:
ten to this power is the largest that fits in 128 bits. -/
def maxUnitPlaces : Nat := 38

/-- Whether the decimal is a one that is recognised as such: `1`, `1.0` and so
on. A one with more than `maxUnitPlaces` places is treated like any number. -/
def isUnit (d : Decimal) : Bool :=
  0 ≤ d.scale && d.scale ≤ maxUnitPlaces && d.coefficient == tenPow d.scale.toNat

/-!
## Rounding to a number of significant digits

A coefficient with too few digits is extended by zeros. One with too many is
cut; if the number is positive and the first digit cut off is five or more, the
last digit kept goes up by one. A negative number is only cut.
-/

/-- One if cutting the last `count` digits of a positive number rounds it up. -/
def roundingUnit (coefficient : Int) (count : Nat) : Int :=
  if 0 < coefficient ∧ tenPow count ≤ 2 * (coefficient.natAbs % tenPow count) then 1 else 0

/-- Drops the last `count` digits of the coefficient. -/
def dropDigits (d : Decimal) (count : Nat) : Decimal :=
  ⟨d.coefficient.tdiv (tenPow count) + roundingUnit d.coefficient count,
    d.scale - count⟩

def addZeros (d : Decimal) (count : Nat) : Decimal :=
  ⟨d.coefficient * tenPow count, d.scale + count⟩

/-- The decimal with a coefficient of `digits` digits, or one more where
rounding up carries into a new first digit. -/
def toPrecision (digits : Nat) (d : Decimal) : Decimal :=
  if digits < d.digitCount then d.dropDigits (d.digitCount - digits)
  else d.addZeros (digits - d.digitCount)

/-!
## Arithmetic
-/

def neg (d : Decimal) : Decimal :=
  ⟨-d.coefficient, d.scale⟩

instance : Neg Decimal := ⟨neg⟩

/-- The exact product. A unit leaves the other factor as it is, so that its
places are not added. -/
def mul (a b : Decimal) : Decimal :=
  if a.isUnit then b
  else if b.isUnit then a
  else ⟨a.coefficient * b.coefficient, a.scale + b.scale⟩

instance : Mul Decimal := ⟨mul⟩

/-- The coefficient at a scale that is not smaller than the decimal's own. -/
def coefficientAt (d : Decimal) (scale : Int) : Int :=
  d.coefficient * tenPow (scale - d.scale).toNat

/-- The exact sum, at the larger of the two scales. -/
def exactSum (a b : Decimal) : Decimal :=
  let scale := max a.scale b.scale
  ⟨a.coefficientAt scale + b.coefficientAt scale, scale⟩

/-- The sum. Where the leading digits are further apart than the working
precision, it is the larger operand, rounded: scales are not aligned across
such a gap. -/
def sum (a b : Decimal) : Decimal :=
  if a.isZero then b
  else if b.isZero then a
  else if precision + 1 < (a.leadingExponent - b.leadingExponent).natAbs then
    toPrecision precision (if b.leadingExponent < a.leadingExponent then a else b)
  else exactSum a b

/-!
## Order

Numbers are ordered by sign, then by the place of their first digit, and only
then by their digits, so that the order of numbers of very different size is
found without writing out either.
-/

/-- The order of two decimals of the same sign and the same leading exponent. -/
def compareDigits (a b : Decimal) : Ordering :=
  let scale := max a.scale b.scale
  Ord.compare (a.coefficientAt scale) (b.coefficientAt scale)

/-- The order of the numbers that two decimals stand for. -/
def compare (a b : Decimal) : Ordering :=
  match Ord.compare a.coefficient.sign b.coefficient.sign with
  | .eq =>
      if a.isZero then .eq
      else
        match Ord.compare a.leadingExponent b.leadingExponent with
        | .eq => compareDigits a b
        | order => if a.isNegative then order.swap else order
  | order => order

/-!
## Whole numbers and normal form
-/

def isWhole (d : Decimal) : Bool :=
  d.scale ≤ 0 || d.coefficient % tenPow d.scale.toNat == 0

/-- The whole part, cut toward zero. -/
def truncate (d : Decimal) : Int :=
  (d.coefficient * tenPow (-d.scale).toNat).tdiv (tenPow d.scale.toNat)

/-- The number of zeros that end the numeral of `n`. -/
def trailingZeros (n : Nat) : Nat :=
  ((Numeral.digits n).reverse.takeWhile (· == '0')).length

/-- The same number with no trailing zeros in the coefficient, and zero at
scale zero. -/
def normalized (d : Decimal) : Decimal :=
  if d.isZero then ⟨0, 0⟩
  else
    let zeros := trailingZeros d.coefficient.natAbs
    ⟨d.coefficient.tdiv (tenPow zeros), d.scale - zeros⟩

end Decimal
end Reckon
