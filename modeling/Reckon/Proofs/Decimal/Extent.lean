import Reckon.Proofs.Decimal.Moderate
import Reckon.Proofs.Integer.Width

/-!
# How far scales and digits grow

The digits of a decimal and the places of its scale are counted together. A sum, a product or
a quotient has little more of them than both operands together, whichever digits are dropped,
and a power has few of them behind the limit on powers. So many operations have to follow each
other before a scale comes near the ends of its range.
-/

namespace Reckon
namespace Decimal

open Numeral (tenPow)

section Numbers

variable {a b d result square : Decimal} {digits exponent : Nat}

/-- The places and the digits of a decimal. -/
def extent (d : Decimal) : Nat :=
  d.scale.natAbs + d.digitCount

theorem isModerate_iff : d.IsModerate <-> d.extent ≤ 2 ^ 61 :=
  Iff.rfl

theorem extent_neg (d : Decimal) : (-d).extent = d.extent := by
  rw [extent, scale_neg, digitCount_neg, extent]

theorem natAbs_leadingExponent_le (d : Decimal) : d.leadingExponent.natAbs ≤ d.extent := by
  have hpos := digitCount_pos d
  rw [leadingExponent, extent]
  omega

theorem extent_toPrecision_le (hdigits : 0 < digits) (d : Decimal) :
    (d.toPrecision digits).extent ≤ d.leadingExponent.natAbs + 2 * digits + 1 := by
  have hcount := digitCount_toPrecision_le hdigits d
  rw [extent, scale_toPrecision]
  omega

theorem extent_ofInt_le (n : Int) : (ofInt n).extent ≤ Integer.bitLength n + 1 := by
  have hbelow (k : Nat) : 2 ^ k ≤ tenPow k := Nat.pow_le_pow_left (by decide) k
  have hbits := Integer.natAbs_lt_two_pow_bitLength n
  have hcount : Numeral.digitCount n.natAbs ≤ Integer.bitLength n + 1 := by
    apply Numeral.digitCount_le_of_lt (Nat.succ_pos _)
    exact hbits.trans_le ((hbelow _).trans (Numeral.tenPow_le (Nat.le_succ _)))
  show Int.natAbs 0 + Numeral.digitCount n.natAbs ≤ _
  omega

/-!
## Sums, products and quotients
-/

theorem extent_exactSum_le
    (h : (a.leadingExponent - b.leadingExponent).natAbs ≤ precision + 1) :
    (exactSum a b).extent ≤ a.extent + b.extent + 102 := by
  have hkept : precision = 100 := rfl
  have hcount := digitCount_exactSum_le h
  have hscale : (exactSum a b).scale = max a.scale b.scale := rfl
  rw [extent, extent, extent, hscale]
  omega

theorem extent_sum_le (a b : Decimal) : (a.sum b).extent ≤ a.extent + b.extent + 201 := by
  have hkept : precision = 100 := rfl
  have hround (d : Decimal) : (d.toPrecision precision).extent ≤ d.extent + 201 := by
    have hrounded := extent_toPrecision_le (by decide : 0 < precision) d
    have hplace := natAbs_leadingExponent_le d
    omega
  unfold sum
  split
  · omega
  · split
    · omega
    · split
      · have ha := hround a
        have hb := hround b
        split <;> omega
      · next hnear =>
          have hexact := extent_exactSum_le (Nat.not_lt.mp hnear)
          omega

theorem digitCount_mul_le (n m : Nat) :
    Numeral.digitCount (n * m) ≤ Numeral.digitCount n + Numeral.digitCount m := by
  have hn := Numeral.digitCount_pos n
  apply Numeral.digitCount_le_of_lt (by omega)
  rw [Numeral.tenPow_add]
  exact Nat.mul_lt_mul_of_lt_of_lt (Numeral.lt_tenPow_digitCount n)
    (Numeral.lt_tenPow_digitCount m)

theorem extent_mul_le (a b : Decimal) : (a * b).extent ≤ a.extent + b.extent := by
  show (mul a b).extent ≤ _
  unfold mul
  split
  · omega
  · split
    · omega
    · have hcount := digitCount_mul_le a.coefficient.natAbs b.coefficient.natAbs
      rw [extent, extent, extent, digitCount, digitCount, digitCount, Int.natAbs_mul]
      dsimp only
      omega

/-- The places that a numerator is lifted by are digits of the quotient, and do not move its
first digit. -/
theorem natAbs_leadingExponent_quotient_le (hb : b.coefficient ≠ 0) :
    (quotient a b).leadingExponent.natAbs ≤ a.extent + b.extent + 100 := by
  have hplace := natAbs_leadingExponent_le a
  by_cases ha : a.coefficient = 0
  · rw [quotient_of_eq_zero ha]
    omega
  · cases hunit : b.isUnit with
    | true =>
        rw [quotient_of_isUnit hunit]
        omega
    | false =>
        have hkept : precision = 100 := rfl
        have hpos := digitCount_pos (quotient a b)
        have hcount := digitCount_quotient_le ha hb hunit
        have hplaces := places_le a.coefficient.natAbs b.coefficient.natAbs
        have hscale : (quotient a b).scale =
            a.scale - b.scale + places a.coefficient.natAbs b.coefficient.natAbs := by
          rw [quotient_eq ha hunit]
        rw [← digitCount] at hplaces
        rw [leadingExponent, extent, extent]
        omega

theorem extent_div?_le (h : a.div? b = some d) : d.extent ≤ a.extent + b.extent + 301 := by
  unfold div? at h
  split at h
  · cases h
  · next hzero =>
      have hkept : precision = 100 := rfl
      have hplace := natAbs_leadingExponent_quotient_le (a := a) (mt beq_iff_eq.mpr hzero)
      have hround := extent_toPrecision_le (by decide : 0 < precision) (quotient a b)
      cases h
      omega

/-!
## Powers
-/

theorem powerLoop_bounds (h : Meets result square) :
    (powerLoop result square exponent).weight ≤ result.weight + square.weight * exponent ∧
      (powerLoop result square exponent).digitCount ≤ max result.digitCount (precision + 1) := by
  induction exponent using Nat.strong_induction_on generalizing result square with
  | h exponent ih =>
      by_cases hzero : exponent = 0
      · rw [hzero, powerLoop_zero]
        exact ⟨Nat.le_add_right _ _, Nat.le_max_left _ _⟩
      · have hhalf : exponent / 2 < exponent := by omega
        have hsquared := weight_roundedProduct_le (meets_self square)
        have hrest := Nat.mul_le_mul_right (exponent / 2) hsquared
        rw [← Nat.two_mul, Nat.mul_comm 2, Nat.mul_assoc] at hrest
        rcases Nat.even_or_odd exponent with heven | hodd
        · rw [Nat.two_mul_div_two_of_even heven] at hrest
          rcases ih _ hhalf h.even with ⟨hweight, hdigits⟩
          rw [powerLoop_of_even heven]
          exact ⟨by omega, hdigits⟩
        · have hmultiplied := weight_roundedProduct_le h
          have hshort := digitCount_toPrecision_le (by decide : 0 < precision)
            (plainProduct result square)
          have hcount := Nat.two_mul_div_two_add_one_of_odd hodd
          rcases ih _ hhalf h.odd with ⟨hweight, hdigits⟩
          rw [← roundedProduct] at hshort
          have hall : square.weight * exponent =
              square.weight * (2 * (exponent / 2)) + square.weight := by
            rw [← Nat.mul_succ, Nat.succ_eq_add_one, hcount]
          rw [powerLoop_of_odd hodd]
          exact ⟨by omega, by omega⟩

/-- Behind the limits on powers and on exponents, a power has no more places and digits than
the limit on powers has, twice. -/
theorem extent_power_le (hlimit : (d.leadingExponent.natAbs + 1) * exponent ≤ 2 ^ 40)
    (hexponent : exponent < 2 ^ 32) : (power d exponent).extent ≤ 2 ^ 41 + 500 := by
  have hkept : precision = 100 := rfl
  have hone : (ofInt 1).weight = 101 := by decide +kernel
  have hdigit : (ofInt 1).digitCount = 1 := by decide +kernel
  have hbounds : (power d exponent).weight ≤ (ofInt 1).weight + d.weight * exponent ∧
      (power d exponent).digitCount ≤ max (ofInt 1).digitCount (precision + 1) :=
    powerLoop_bounds (.inr rfl)
  rw [hone, hdigit] at hbounds
  rcases hbounds with ⟨hweight, hdigits⟩
  have hsplit : d.weight * exponent =
      (d.leadingExponent.natAbs + 1) * exponent + 100 * exponent := by
    rw [← Nat.add_mul]
    rfl
  rw [weight, leadingExponent] at hweight
  rw [extent]
  omega

end Numbers

end Decimal
end Reckon
