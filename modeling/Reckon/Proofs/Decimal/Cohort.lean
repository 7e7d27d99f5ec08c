import Reckon.Proofs.Decimal.Arithmetic
import Reckon.Proofs.Decimal.Display

/-!
# Decimals that stand for one number

Two decimals stand for the same number if the one is the other with zeros behind its
digits, or if both are zero. What is done with decimals looks at how many digits they
have, but depends on the number alone: the numbers that sums come to, and the text that
a decimal is shown with.
-/

namespace Reckon
namespace Decimal

open Numeral (tenPow)

/-!
## Zeros behind the digits
-/

theorem addZeros_addZeros (d : Decimal) (m n : Nat) :
    (d.addZeros m).addZeros n = d.addZeros (m + n) := by
  rw [addZeros, addZeros, addZeros, Numeral.tenPow_add, Int.natCast_mul, Int.mul_assoc,
    Int.natCast_add, Int.add_assoc]

theorem eq_addZeros_of_toRat_eq {a b : Decimal} (h : a.toRat = b.toRat)
    (hscale : a.scale ≤ b.scale) : b = a.addZeros (b.scale - a.scale).toNat := by
  have hcoefficient : a.coefficientAt b.scale = b.coefficient := by
    rw [toRat_eq_coefficientAt hscale, toRat] at h
    exact Int.cast_injective (mul_right_cancel₀ (zpow_ten_pos _).ne' h)
  have hplaces : a.scale + ((b.scale - a.scale).toNat : Int) = b.scale := by omega
  rw [addZeros, hplaces]
  show b = ⟨a.coefficientAt b.scale, b.scale⟩
  rw [hcoefficient]

theorem digitCount_addZeros {d : Decimal} (h : d.coefficient ≠ 0) (count : Nat) :
    (d.addZeros count).digitCount = d.digitCount + count := by
  have hne : d.coefficient.natAbs ≠ 0 := Int.natAbs_ne_zero.mpr h
  have hpos : 0 < d.digitCount := Numeral.digitCount_pos _
  have hdigits : d.digitCount + count = d.digitCount - 1 + count + 1 := by omega
  have hmost : d.digitCount - 1 + count + 1 = d.digitCount + count := hdigits.symm
  rw [digitCount, addZeros, Int.natAbs_mul, Int.natAbs_natCast, hdigits]
  apply Numeral.digitCount_eq_of_le_of_lt
  · rw [Numeral.tenPow_add]
    exact Nat.mul_le_mul_right _ (Numeral.tenPow_digitCount_le hne)
  · rw [hmost, Numeral.tenPow_add]
    exact Nat.mul_lt_mul_of_pos_right (Numeral.lt_tenPow_digitCount _) (Numeral.tenPow_pos _)

theorem roundingUnit_mul_tenPow (coefficient : Int) (count zeros : Nat) :
    roundingUnit (coefficient * tenPow zeros) (count + zeros) =
      roundingUnit coefficient count := by
  have hpos := Numeral.tenPow_pos zeros
  have hsign : 0 < coefficient * (tenPow zeros : Int) <-> 0 < coefficient :=
    mul_pos_iff_of_pos_right (Int.natCast_pos.mpr hpos)
  have hhalf : tenPow (count + zeros) ≤
      2 * ((coefficient * (tenPow zeros : Int)).natAbs % tenPow (count + zeros)) <->
        tenPow count ≤ 2 * (coefficient.natAbs % tenPow count) := by
    rw [Int.natAbs_mul, Int.natAbs_natCast, Numeral.tenPow_add, Nat.mul_mod_mul_right,
      ← Nat.mul_assoc]
    exact Nat.mul_le_mul_right_iff hpos
  exact if_congr (and_congr hsign hhalf) rfl rfl

theorem dropDigits_addZeros (d : Decimal) (count zeros : Nat) :
    (d.addZeros zeros).dropDigits (count + zeros) = d.dropDigits count := by
  have hpos : (0 : Int) < tenPow zeros := Int.natCast_pos.mpr (Numeral.tenPow_pos zeros)
  have hscale : d.scale + (zeros : Int) - ((count + zeros : Nat) : Int) = d.scale - count := by
    omega
  rw [dropDigits, addZeros, roundingUnit_mul_tenPow, hscale, Numeral.tenPow_add,
    Int.natCast_mul, Int.mul_tdiv_mul_of_pos_left _ _ hpos]
  rfl

theorem dropDigits_zero (d : Decimal) : d.dropDigits 0 = d := by
  have hunit : roundingUnit d.coefficient 0 = 0 := by
    rw [roundingUnit, Numeral.tenPow_zero, Nat.mod_one]
    exact if_neg fun h => absurd h.right (by decide)
  rw [dropDigits, hunit, Numeral.tenPow_zero, Int.natCast_one, Int.tdiv_one, Int.add_zero,
    Int.natCast_zero, Int.sub_zero]

theorem dropDigits_addZeros_add (d : Decimal) (count zeros : Nat) :
    (d.addZeros (zeros + count)).dropDigits count = d.addZeros zeros := by
  have hdrop := dropDigits_addZeros (d.addZeros zeros) 0 count
  rw [Nat.zero_add, addZeros_addZeros, dropDigits_zero] at hdrop
  exact hdrop

/-!
## Rounding
-/

theorem toPrecision_addZeros {d : Decimal} (h : d.coefficient ≠ 0) (zeros digits : Nat) :
    (d.addZeros zeros).toPrecision digits = d.toPrecision digits := by
  have hcount := digitCount_addZeros h zeros
  rcases Nat.lt_or_ge digits d.digitCount with hmany | hfew
  · have hlong : digits < (d.addZeros zeros).digitCount := by omega
    have hdrop : d.digitCount + zeros - digits = d.digitCount - digits + zeros := by omega
    rw [toPrecision_of_lt hlong, toPrecision_of_lt hmany, hcount, hdrop, dropDigits_addZeros]
  · rw [toPrecision_of_le hfew]
    rcases Nat.lt_or_ge digits (d.digitCount + zeros) with hlong | hshort
    · have hzeros : zeros = digits - d.digitCount + (d.digitCount + zeros - digits) := by omega
      rw [toPrecision_of_lt (hcount.symm ▸ hlong), hcount]
      conv_lhs =>
        enter [1]
        rw [hzeros]
      exact dropDigits_addZeros_add d _ _
    · have hzeros : zeros + (digits - (d.digitCount + zeros)) = digits - d.digitCount := by
        omega
      rw [toPrecision_of_le (hcount.symm ▸ hshort), hcount, addZeros_addZeros, hzeros]

section Cohort

variable {a b : Decimal}

theorem coefficient_eq_zero_congr (h : a.toRat = b.toRat) :
    a.coefficient = 0 <-> b.coefficient = 0 := by
  rw [← toRat_eq_zero_iff, h, toRat_eq_zero_iff]

/-- Decimals for one number other than zero are rounded to the same decimal. -/
theorem toPrecision_congr (h : a.toRat = b.toRat) (hne : a.coefficient ≠ 0) (digits : Nat) :
    a.toPrecision digits = b.toPrecision digits := by
  rcases le_total a.scale b.scale with hscale | hscale
  · rw [eq_addZeros_of_toRat_eq h hscale, toPrecision_addZeros hne]
  · have hb := mt (coefficient_eq_zero_congr h).mpr hne
    rw [eq_addZeros_of_toRat_eq h.symm hscale, toPrecision_addZeros hb]

theorem leadingExponent_congr (h : a.toRat = b.toRat) (hne : a.coefficient ≠ 0) :
    a.leadingExponent = b.leadingExponent := by
  rw [leadingExponent_eq_log hne,
    leadingExponent_eq_log (mt (coefficient_eq_zero_congr h).mpr hne), h]

theorem isZero_congr (h : a.toRat = b.toRat) : a.isZero = b.isZero := by
  rw [isZero, isZero, Bool.eq_iff_iff, beq_iff_eq, beq_iff_eq]
  exact coefficient_eq_zero_congr h

theorem chars_congr (h : a.toRat = b.toRat) : a.chars = b.chars := by
  by_cases hzero : a.coefficient = 0
  · rw [(shows_of_eq_zero hzero).chars_eq,
      (shows_of_eq_zero ((coefficient_eq_zero_congr h).mp hzero)).chars_eq]
  · have hshown : a.shown = b.shown := toPrecision_congr h hzero shownDigits
    rw [chars, mantissaDigits, shownExponent, hshown]
    rfl

theorem chars_eq_chars_iff : a.chars = b.chars <-> a.shown.toRat = b.shown.toRat := by
  rcases a.exists_spelledBy with ⟨s, hs⟩
  rcases b.exists_spelledBy with ⟨t, ht⟩
  rw [hs.chars_eq, ht.chars_eq, ← hs.toRat_eq, ← ht.toRat_eq]
  constructor
  · exact Scientific.toRat_eq_of_chars_eq
  · intro h
    have hnumber : s.decimal.toRat = t.decimal.toRat := by
      rw [s.toRat_decimal, t.toRat_decimal, h]
    rw [← hs.chars_decimal, chars_congr hnumber, ht.chars_decimal]

end Cohort

/-!
## Sums
-/

/-- The number that a sum comes to depends on the numbers added alone, also where the
smaller one is dropped and the larger one rounded. -/
theorem toRat_sum_congr {a a' b b' : Decimal} (ha : a.toRat = a'.toRat)
    (hb : b.toRat = b'.toRat) : (a.sum b).toRat = (a'.sum b').toRat := by
  unfold sum
  rw [isZero_congr ha, isZero_congr hb]
  split
  · exact hb
  · next hazero =>
      split
      · exact ha
      · next hbzero =>
          have hane : a.coefficient ≠ 0 := by
            rw [isZero, beq_iff_eq, ← coefficient_eq_zero_congr ha] at hazero
            exact hazero
          have hbne : b.coefficient ≠ 0 := by
            rw [isZero, beq_iff_eq, ← coefficient_eq_zero_congr hb] at hbzero
            exact hbzero
          rw [leadingExponent_congr ha hane, leadingExponent_congr hb hbne]
          split
          · split
            · rw [toPrecision_congr ha hane]
            · rw [toPrecision_congr hb hbne]
          · rw [toRat_exactSum, toRat_exactSum, ha, hb]

end Decimal
end Reckon
