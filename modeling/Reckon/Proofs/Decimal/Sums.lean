import Reckon.Proofs.Decimal.Arithmetic

/-!
# Signs of sums

A sum has the sign of the exact sum, and is zero only if that is. This is so although
the smaller one of two numbers of very different size is dropped and the larger one is
rounded: it alone gives the sign, and rounding does not change it.
-/

namespace Reckon
namespace Decimal

theorem cmp_zero_eq_of_sign_eq {a b : Decimal} (h : a.coefficient.sign = b.coefficient.sign) :
    cmp a.toRat 0 = cmp b.toRat 0 := by
  have hpos : 0 < a.toRat <-> 0 < b.toRat := by
    rw [toRat_pos_iff, toRat_pos_iff, ← Int.sign_pos_iff, h, Int.sign_pos_iff]
  have hneg : a.toRat < 0 <-> b.toRat < 0 := by
    rw [toRat_neg_iff, toRat_neg_iff, ← Int.sign_neg_iff, h, Int.sign_neg_iff]
  rcases lt_trichotomy b.toRat 0 with hb | hb | hb
  · rw [(cmp_eq_lt_iff _ _).mpr hb, (cmp_eq_lt_iff _ _).mpr (hneg.mpr hb)]
  · have ha : a.toRat = 0 :=
      le_antisymm (not_lt.mp (mt hpos.mp hb.not_gt)) (not_lt.mp (mt hneg.mp hb.not_lt))
    rw [ha, hb]
  · rw [(cmp_eq_gt_iff _ _).mpr hb, (cmp_eq_gt_iff _ _).mpr (hpos.mpr hb)]

theorem cmp_add_zero_of_abs_lt {x y : ℚ} (h : |y| < |x|) : cmp (x + y) 0 = cmp x 0 := by
  rcases abs_lt.mp h with ⟨hlow, hhigh⟩
  rcases lt_trichotomy x 0 with hx | hx | hx
  · rw [abs_of_neg hx] at hhigh
    have hsum : x + y < 0 := by linarith
    rw [(cmp_eq_lt_iff _ _).mpr hx, (cmp_eq_lt_iff _ _).mpr hsum]
  · rw [hx, abs_zero] at h
    exact absurd h (not_lt.mpr (abs_nonneg y))
  · rw [abs_of_pos hx] at hlow
    have hsum : 0 < x + y := by linarith
    rw [(cmp_eq_gt_iff _ _).mpr hx, (cmp_eq_gt_iff _ _).mpr hsum]

theorem cmp_toPrecision_zero_of_abs_lt {a b : Decimal} (h : |b.toRat| < |a.toRat|) :
    cmp (toPrecision precision a).toRat 0 = cmp (a.toRat + b.toRat) 0 := by
  rw [cmp_zero_eq_of_sign_eq (sign_toPrecision (by decide) a), cmp_add_zero_of_abs_lt h]

theorem cmp_sum_zero (a b : Decimal) : cmp (a.sum b).toRat 0 = cmp (a.toRat + b.toRat) 0 := by
  by_cases ha : a.isZero = true
  · rw [sum, if_pos ha, toRat_eq_zero_iff.mpr (beq_iff_eq.mp ha), zero_add]
  · by_cases hb : b.isZero = true
    · rw [sum, if_neg ha, if_pos hb, toRat_eq_zero_iff.mpr (beq_iff_eq.mp hb), add_zero]
    · rw [sum, if_neg ha, if_neg hb]
      have hane : a.coefficient ≠ 0 := fun h => ha (beq_iff_eq.mpr h)
      have hbne : b.coefficient ≠ 0 := fun h => hb (beq_iff_eq.mpr h)
      by_cases hgap : precision + 1 < (a.leadingExponent - b.leadingExponent).natAbs
      · rw [if_pos hgap]
        by_cases hlt : b.leadingExponent < a.leadingExponent
        · rw [if_pos hlt]
          exact cmp_toPrecision_zero_of_abs_lt
            (abs_toRat_lt_of_leadingExponent_lt hbne hane hlt)
        · have hgt : a.leadingExponent < b.leadingExponent := by omega
          rw [if_neg hlt, add_comm]
          exact cmp_toPrecision_zero_of_abs_lt
            (abs_toRat_lt_of_leadingExponent_lt hane hbne hgt)
      · rw [if_neg hgap, toRat_exactSum]

/-- A difference is ordered to zero as its operands are to each other. -/
theorem cmp_sum_neg_zero (a b : Decimal) : cmp (a.sum (-b)).toRat 0 = cmp a.toRat b.toRat := by
  rw [cmp_sum_zero, toRat_neg, ← sub_eq_add_neg, cmp_sub_zero]

end Decimal
end Reckon
