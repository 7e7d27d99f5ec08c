import Mathlib.Tactic.Linarith
import Reckon.Proofs.Decimal.Precision
import Reckon.Proofs.Decimal.Scales

/-!
# Sums across a gap

Decimals are added exactly unless their first digits are further apart than the working
precision. Then the smaller one is dropped and the larger one rounded, which keeps the
sum short, and still close to the exact sum. It is what the exact sum is rounded to unless
the digits that are cut off from the larger one lie so near to where rounding changes that
the smaller one reaches across.
-/

namespace Reckon
namespace Decimal

open Numeral (tenPow)

/-!
## The larger and the smaller operand
-/

/-- Whether the smaller one of two decimals is dropped from their sum: neither is zero, and
their first digits are further apart than the working precision. -/
def FarApart (a b : Decimal) : Prop :=
  a.coefficient ≠ 0 ∧ b.coefficient ≠ 0 ∧
    precision + 1 < (a.leadingExponent - b.leadingExponent).natAbs

instance (a b : Decimal) : Decidable (FarApart a b) :=
  inferInstanceAs (Decidable (_ ∧ _ ∧ _))

/-- The one of two decimals whose first digit is further to the left. -/
def larger (a b : Decimal) : Decimal :=
  if b.leadingExponent < a.leadingExponent then a else b

/-- The other one. -/
def smaller (a b : Decimal) : Decimal :=
  if b.leadingExponent < a.leadingExponent then b else a

section Operands

variable {a b d : Decimal}

theorem sum_of_farApart (h : FarApart a b) : a.sum b = (larger a b).toPrecision precision := by
  rcases h with ⟨ha, hb, hgap⟩
  rw [sum, isZero, isZero, beq_eq_false_iff_ne.mpr ha, beq_eq_false_iff_ne.mpr hb, if_pos hgap]
  rfl

theorem FarApart.sum?_eq_some_iff (h : FarApart a b) :
    a.sum? b = some d <-> (a.hasPlace = true ∧ b.hasPlace = true) ∧ a.sum b = d := by
  have ha : a.isZero = false := beq_eq_false_iff_ne.mpr h.left
  have hb : b.isZero = false := beq_eq_false_iff_ne.mpr h.right.left
  rw [Decimal.sum?_eq_some_iff, canAdd, ha, hb, Bool.false_or, Bool.false_or, Bool.and_eq_true]

theorem FarApart.canRound_larger (h : FarApart a b) (ha : a.hasPlace = true)
    (hb : b.hasPlace = true) : canRound precision (larger a b) = true := by
  have hgap := h.right.right
  have hkept : precision = 100 := rfl
  rw [hasPlace, isScale_iff] at ha hb
  rw [canRound_iff]
  unfold larger
  split
  · omega
  · omega

theorem toRat_sum_of_not_farApart (h : ¬ FarApart a b) :
    (a.sum b).toRat = a.toRat + b.toRat := by
  unfold sum
  split
  · next ha => rw [toRat_eq_zero_iff.mpr (beq_iff_eq.mp ha), zero_add]
  · next ha =>
      split
      · next hb => rw [toRat_eq_zero_iff.mpr (beq_iff_eq.mp hb), add_zero]
      · next hb =>
          have hnear : ¬ precision + 1 < (a.leadingExponent - b.leadingExponent).natAbs :=
            fun hgap => h ⟨mt beq_iff_eq.mpr ha, mt beq_iff_eq.mpr hb, hgap⟩
          rw [if_neg hnear, toRat_exactSum]

theorem FarApart.symm (h : FarApart a b) : FarApart b a := by
  rcases h with ⟨ha, hb, hgap⟩
  refine ⟨hb, ha, ?_⟩
  rw [← Int.natAbs_neg, neg_sub]
  exact hgap

theorem FarApart.larger_comm (h : FarApart a b) : larger b a = larger a b := by
  have hgap := h.right.right
  unfold larger
  rcases lt_trichotomy a.leadingExponent b.leadingExponent with hlt | heq | hgt
  · rw [if_pos hlt, if_neg hlt.not_gt]
  · rw [heq, sub_self] at hgap
    exact absurd hgap (Nat.not_lt_zero _)
  · rw [if_neg hgt.not_gt, if_pos hgt]

theorem larger_add_smaller (a b : Decimal) :
    (larger a b).toRat + (smaller a b).toRat = a.toRat + b.toRat := by
  unfold larger smaller
  split
  · rfl
  · exact add_comm _ _

theorem FarApart.larger_ne_zero (h : FarApart a b) : (larger a b).coefficient ≠ 0 := by
  unfold larger
  split
  · exact h.left
  · exact h.right.left

theorem zpow_leadingExponent_le (h : d.coefficient ≠ 0) :
    (10 : ℚ) ^ d.leadingExponent ≤ |d.toRat| := by
  rw [leadingExponent_eq_log h]
  exact Int.zpow_log_le_self (by decide) (abs_pos.mpr (mt toRat_eq_zero_iff.mp h))

theorem abs_toRat_lt (d : Decimal) : |d.toRat| < 10 ^ (d.leadingExponent + 1) := by
  by_cases h : d.coefficient = 0
  · rw [toRat_eq_zero_iff.mpr h, abs_zero]
    exact zpow_ten_pos _
  · rw [leadingExponent_eq_log h]
    exact Int.lt_zpow_succ_log_self (by decide) _

theorem FarApart.abs_smaller_lt (h : FarApart a b) :
    100 * |(smaller a b).toRat| < lastPlace precision (larger a b).toRat := by
  have hgap := h.right.right
  have hplaces : (smaller a b).leadingExponent + 1 + 2 ≤
      (larger a b).leadingExponent + 1 - precision := by
    unfold larger smaller
    split
    · omega
    · omega
  rw [lastPlace_toRat h.larger_ne_zero]
  calc
    100 * |(smaller a b).toRat| < 100 * 10 ^ ((smaller a b).leadingExponent + 1) :=
      mul_lt_mul_of_pos_left (abs_toRat_lt _) (by norm_num)
    _ = 10 ^ ((smaller a b).leadingExponent + 1 + 2) := by
      rw [zpow_ten_add _ 2, mul_comm]
      norm_num
    _ ≤ _ := zpow_le_zpow_right₀ (by norm_num) hplaces

end Operands

/-!
## Digits of sums
-/

section Digits

variable {a b : Decimal}

theorem natAbs_coefficientAt_lt (d : Decimal) {scale : Int} {count : Nat}
    (h : d.digitCount + (scale - d.scale).toNat ≤ count) :
    (d.coefficientAt scale).natAbs < tenPow count := by
  rw [coefficientAt, Int.natAbs_mul, Int.natAbs_natCast]
  calc
    _ < tenPow d.digitCount * tenPow (scale - d.scale).toNat :=
      Nat.mul_lt_mul_of_pos_right (Numeral.lt_tenPow_digitCount _) (Numeral.tenPow_pos _)
    _ ≤ tenPow count := by
      rw [← Numeral.tenPow_add]
      exact Numeral.tenPow_le h

theorem digitCount_exactSum_le {gap : Nat}
    (h : (a.leadingExponent - b.leadingExponent).natAbs ≤ gap) :
    (exactSum a b).digitCount ≤ max a.digitCount b.digitCount + gap + 1 := by
  have hleft : a.digitCount + (max a.scale b.scale - a.scale).toNat ≤
      max a.digitCount b.digitCount + gap := by
    rw [leadingExponent, leadingExponent] at h
    omega
  have hright : b.digitCount + (max a.scale b.scale - b.scale).toNat ≤
      max a.digitCount b.digitCount + gap := by
    rw [leadingExponent, leadingExponent] at h
    omega
  have hsum := Int.natAbs_add_le (a.coefficientAt (max a.scale b.scale))
    (b.coefficientAt (max a.scale b.scale))
  have ha := natAbs_coefficientAt_lt a hleft
  have hb := natAbs_coefficientAt_lt b hright
  apply Numeral.digitCount_le_of_lt (Nat.succ_pos _)
  rw [Numeral.tenPow_succ]
  show (a.coefficientAt _ + b.coefficientAt _).natAbs < _
  omega

theorem digitCount_toPrecision_le {digits : Nat} (hdigits : 0 < digits) (d : Decimal) :
    (d.toPrecision digits).digitCount ≤ digits + 1 := by
  apply Numeral.digitCount_le_of_lt (Nat.succ_pos _)
  by_cases hzero : d.coefficient = 0
  · have hrounded : (d.toPrecision digits).coefficient = 0 := by
      rw [← Int.sign_eq_zero_iff_zero, sign_toPrecision hdigits, hzero, Int.sign_zero]
    rw [hrounded]
    exact Nat.pow_pos (by decide)
  · apply Nat.lt_of_le_of_lt (natAbs_toPrecision hdigits hzero).right
    exact Nat.pow_lt_pow_right (by decide) (Nat.lt_succ_self digits)

theorem digitCount_sum_le (a b : Decimal) :
    (a.sum b).digitCount ≤ max (max a.digitCount b.digitCount) precision + 102 := by
  have hkept : precision + 2 = 102 := rfl
  by_cases hfar : FarApart a b
  · have hround := digitCount_toPrecision_le (by decide : 0 < precision) (larger a b)
    rw [sum_of_farApart hfar]
    omega
  · unfold sum
    split
    · omega
    · next ha =>
        split
        · omega
        · next hb =>
            have hnear : ¬ precision + 1 < (a.leadingExponent - b.leadingExponent).natAbs :=
              fun hgap => hfar ⟨mt beq_iff_eq.mpr ha, mt beq_iff_eq.mpr hb, hgap⟩
            have hexact := digitCount_exactSum_le (Nat.not_lt.mp hnear)
            rw [if_neg hnear]
            omega

end Digits

/-!
## Distance from the exact sum
-/

section Distance

variable {a b : Decimal}

theorem toRat_sum_comm (a b : Decimal) : (a.sum b).toRat = (b.sum a).toRat := by
  by_cases hfar : FarApart a b
  · rw [sum_of_farApart hfar, sum_of_farApart hfar.symm, hfar.larger_comm]
  · rw [toRat_sum_of_not_farApart hfar, toRat_sum_of_not_farApart (mt FarApart.symm hfar),
      add_comm]

/-- The error is that of rounding the larger operand, and the smaller operand. -/
theorem FarApart.abs_sum_sub_le (h : FarApart a b) :
    |(a.sum b).toRat - (a.toRat + b.toRat)| ≤ 2 * 10 ^ (-99 : Int) * |a.toRat + b.toRat| := by
  have hround := (abs_toPrecision_sub_lt precision (larger a b)).left
  have hsmall := h.abs_smaller_lt
  have hlarge := zpow_leadingExponent_le h.larger_ne_zero
  have hplace : (larger a b).leadingExponent =
      99 + ((larger a b).leadingExponent + 1 - precision) := by
    have hkept : (precision : Int) = 100 := rfl
    omega
  rw [lastPlace_toRat h.larger_ne_zero] at hsmall
  rw [hplace, zpow_ten_add] at hlarge
  rw [sum_of_farApart h, ← larger_add_smaller]
  generalize (10 : ℚ) ^ ((larger a b).leadingExponent + 1 - precision) = place at *
  generalize ((larger a b).toPrecision precision).toRat = result at *
  generalize (larger a b).toRat = x at *
  generalize (smaller a b).toRat = y at *
  have herror : |result - (x + y)| ≤ |result - x| + |y| := by
    rw [← sub_sub]
    exact abs_sub _ _
  have hsum : |x| - |y| ≤ |x + y| := by
    have hback := abs_sub (x + y) y
    rw [add_sub_cancel_right] at hback
    linarith
  have hy := abs_nonneg y
  norm_num at hlarge ⊢
  linarith

end Distance

/-- A sum has few digits more than its longer operand or than are kept, whatever the
exponents. Its number does not depend on the order of the operands. It is exact unless
the operands are far apart, and then it is off by a small part of the exact sum. -/
theorem sum_short_and_close (a b : Decimal) :
    (a.sum b).digitCount ≤ max (max a.digitCount b.digitCount) 100 + 102 ∧
      (a.sum b).toRat = (b.sum a).toRat ∧
      (a.isZero ∨ b.isZero ∨ |a.leadingExponent - b.leadingExponent| ≤ 101 ->
        (a.sum b).toRat = a.toRat + b.toRat) ∧
      (¬ (a.isZero ∨ b.isZero ∨ |a.leadingExponent - b.leadingExponent| ≤ 101) ->
        |(a.sum b).toRat - (a.toRat + b.toRat)| ≤ 2 * 10 ^ (-99 : Int) * |a.toRat + b.toRat|) := by
  have hfar : FarApart a b <->
      ¬ (a.isZero ∨ b.isZero ∨ |a.leadingExponent - b.leadingExponent| ≤ 101) := by
    have hkept : precision + 1 = 101 := rfl
    rw [FarApart, hkept, isZero, isZero, beq_iff_eq, beq_iff_eq, Int.abs_eq_natAbs, not_or, not_or,
      not_le]
    omega
  refine ⟨digitCount_sum_le a b, toRat_sum_comm a b, ?_, ?_⟩
  · intro hnear
    exact toRat_sum_of_not_farApart (mt hfar.mp (not_not.mpr hnear))
  · intro hgap
    exact (hfar.mpr hgap).abs_sum_sub_le

end Decimal
end Reckon
