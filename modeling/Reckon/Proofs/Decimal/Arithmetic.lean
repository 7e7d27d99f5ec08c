import Reckon.Proofs.Decimal.Rounding

/-!
# Decimals as numbers

Products, negatives and exact sums of decimals are those of the numbers that they stand
for, and so is their order, although it is found without aligning decimals of very
different size.
-/

namespace Reckon
namespace Decimal

open Numeral (tenPow)

/-!
## Arithmetic
-/

theorem toRat_neg (d : Decimal) : (-d).toRat = -d.toRat := by
  show ((-d.coefficient : Int) : ℚ) * 10 ^ (-d.scale) = -d.toRat
  rw [Int.cast_neg, neg_mul, toRat]

theorem toRat_eq_coefficientAt {d : Decimal} {scale : Int} (h : d.scale ≤ scale) :
    d.toRat = d.coefficientAt scale * 10 ^ (-scale) := by
  have hplaces : ((scale - d.scale).toNat : Int) + -scale = -d.scale := by omega
  rw [toRat, coefficientAt, Int.cast_mul, Int.cast_natCast, cast_tenPow, mul_assoc,
    ← zpow_ten_add, hplaces]

theorem toRat_exactSum (a b : Decimal) : (exactSum a b).toRat = a.toRat + b.toRat := by
  rw [toRat_eq_coefficientAt (le_max_left a.scale b.scale),
    toRat_eq_coefficientAt (le_max_right a.scale b.scale), ← add_mul, ← Int.cast_add]
  rfl

theorem toRat_of_isUnit {d : Decimal} (h : d.isUnit = true) : d.toRat = 1 := by
  rw [isUnit, Bool.and_eq_true, Bool.and_eq_true, decide_eq_true_eq, beq_iff_eq] at h
  have hplaces : (d.scale.toNat : Int) + -d.scale = 0 := by omega
  rw [toRat, h.right, Int.cast_natCast, cast_tenPow, ← zpow_ten_add, hplaces, zpow_zero]

theorem not_isUnit_of_eq_zero {d : Decimal} (h : d.coefficient = 0) : d.isUnit = false := by
  rw [Bool.eq_false_iff]
  intro hunit
  exact one_ne_zero ((toRat_of_isUnit hunit).symm.trans (toRat_eq_zero_iff.mpr h))

theorem toRat_mul (a b : Decimal) : (a * b).toRat = a.toRat * b.toRat := by
  show (mul a b).toRat = a.toRat * b.toRat
  unfold mul
  split
  · next ha => rw [toRat_of_isUnit ha, one_mul]
  · split
    · next hb => rw [toRat_of_isUnit hb, mul_one]
    · rw [toRat, toRat, toRat, Int.cast_mul, neg_add, zpow_ten_add]
      ring

/-!
## Order
-/

theorem toRat_lt_of_sign_lt {a b : Decimal} (h : a.coefficient.sign < b.coefficient.sign) :
    a.toRat < b.toRat := by
  rcases lt_trichotomy a.coefficient 0 with hneg | hzero | hpos
  · have hb : 0 ≤ b.toRat := by
      rw [← not_lt, toRat_neg_iff]
      intro hb
      rw [Int.sign_eq_neg_one_of_neg hneg, Int.sign_eq_neg_one_of_neg hb] at h
      exact absurd h (lt_irrefl _)
    exact lt_of_lt_of_le (toRat_neg_iff.mpr hneg) hb
  · rw [hzero, Int.sign_zero] at h
    rw [toRat_eq_zero_iff.mpr hzero, toRat_pos_iff]
    exact Int.sign_pos_iff.mp h
  · have hsign := Int.sign_trichotomy b.coefficient
    rw [Int.sign_eq_one_of_pos hpos] at h
    omega

theorem abs_toRat_lt_of_leadingExponent_lt {a b : Decimal} (ha : a.coefficient ≠ 0)
    (hb : b.coefficient ≠ 0) (h : a.leadingExponent < b.leadingExponent) :
    |a.toRat| < |b.toRat| := by
  rw [leadingExponent_eq_log ha, leadingExponent_eq_log hb] at h
  have hpos : 0 < |b.toRat| := abs_pos.mpr (mt toRat_eq_zero_iff.mp hb)
  apply lt_of_not_ge
  intro hle
  exact absurd (Int.log_mono_right hpos hle) (not_le.mpr h)

theorem compareDigits_eq (a b : Decimal) : compareDigits a b = cmp a.toRat b.toRat := by
  rw [toRat_eq_coefficientAt (le_max_left a.scale b.scale),
    toRat_eq_coefficientAt (le_max_right a.scale b.scale), cmp_mul_pos_right (zpow_ten_pos _),
    Int.cast_strictMono.cmp_map_eq, cmp_eq_compare]
  rfl

theorem cmp_of_abs_lt {a b : Decimal} (hsign : a.coefficient.sign = b.coefficient.sign)
    (h : |a.toRat| < |b.toRat|) :
    cmp a.toRat b.toRat = if a.isNegative then .gt else .lt := by
  by_cases hneg : a.coefficient < 0
  · have hb : b.coefficient < 0 := by
      rw [← Int.sign_eq_neg_one_iff_neg, ← hsign, Int.sign_eq_neg_one_of_neg hneg]
    rw [abs_of_neg (toRat_neg_iff.mpr hneg), abs_of_neg (toRat_neg_iff.mpr hb),
      neg_lt_neg_iff] at h
    rw [isNegative, decide_eq_true hneg, if_pos rfl, cmp_eq_gt_iff]
    exact h
  · have hb : ¬ b.coefficient < 0 := by
      rw [← Int.sign_eq_neg_one_iff_neg, ← hsign, Int.sign_eq_neg_one_iff_neg]
      exact hneg
    rw [abs_of_nonneg (not_lt.mp (mt toRat_neg_iff.mp hneg)),
      abs_of_nonneg (not_lt.mp (mt toRat_neg_iff.mp hb))] at h
    rw [isNegative, decide_eq_false hneg, if_neg Bool.false_ne_true, cmp_eq_lt_iff]
    exact h

/-- Decimals are ordered as the numbers that they stand for. -/
theorem compare_eq_cmp (a b : Decimal) : a.compare b = cmp a.toRat b.toRat := by
  unfold compare
  cases hsigns : Ord.compare a.coefficient.sign b.coefficient.sign with
  | lt =>
      have hlt := toRat_lt_of_sign_lt (compare_lt_iff_lt.mp hsigns)
      exact ((cmp_eq_lt_iff _ _).mpr hlt).symm
  | gt =>
      have hlt := toRat_lt_of_sign_lt (compare_gt_iff_gt.mp hsigns)
      exact ((cmp_eq_gt_iff _ _).mpr hlt).symm
  | eq =>
      have hsign := compare_eq_iff_eq.mp hsigns
      dsimp only
      by_cases ha : a.coefficient = 0
      · have hb : b.coefficient = 0 := by
          rw [← Int.sign_eq_zero_iff_zero, ← hsign, ha, Int.sign_zero]
        rw [toRat_eq_zero_iff.mpr ha, toRat_eq_zero_iff.mpr hb, cmp_self_eq_eq, isZero, ha]
        rfl
      · have hb : b.coefficient ≠ 0 := by
          intro hb
          rw [hb, Int.sign_zero] at hsign
          exact ha (Int.sign_eq_zero_iff_zero.mp hsign)
        have hzero : a.isZero = false := beq_eq_false_iff_ne.mpr ha
        rw [hzero, if_neg Bool.false_ne_true]
        cases hplaces : Ord.compare a.leadingExponent b.leadingExponent with
        | eq => exact compareDigits_eq a b
        | lt =>
            have habs := abs_toRat_lt_of_leadingExponent_lt ha hb (compare_lt_iff_lt.mp hplaces)
            exact (cmp_of_abs_lt hsign habs).symm
        | gt =>
            have habs := abs_toRat_lt_of_leadingExponent_lt hb ha (compare_gt_iff_gt.mp hplaces)
            have hneg : b.isNegative = a.isNegative := by
              rw [isNegative, isNegative, decide_eq_decide, ← Int.sign_eq_neg_one_iff_neg,
                ← hsign, Int.sign_eq_neg_one_iff_neg]
            rw [← cmp_swap, cmp_of_abs_lt hsign.symm habs, hneg]
            cases a.isNegative <;> rfl

end Decimal
end Reckon
