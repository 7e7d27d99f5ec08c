import Mathlib.Algebra.Order.Round
import Mathlib.Tactic.LinearCombination
import Mathlib.Tactic.Linarith
import Reckon.Proofs.Decimal.Quotient

/-!
# How close quotients are

A quotient is rounded to a whole coefficient, which moves it by half a unit at most, and
then to the working precision, which moves it by less than a unit of the last digit that is
kept. There may be so few digits between the two that both errors count, but they still
make less than one unit of that digit together. The sign is that of the exact quotient, and
a quotient that can be written with the digits kept is exact.
-/

namespace Reckon
namespace Decimal

open Numeral (tenPow)

/-!
## Signs
-/

section Signs

variable {a b : Decimal}

theorem signType_eq_of_cast_eq {s t : SignType} (h : (s : ℚ) = t) : s = t := by
  have hall : forall s t : SignType, (s : ℚ) = t -> s = t := by decide
  exact hall s t h

theorem roundedQuotient_pos {n m : Nat} (hm : 0 < m) (h : m ≤ n) : 0 < roundedQuotient n m :=
  Nat.lt_of_lt_of_le (Nat.div_pos h hm) (Nat.le_add_right _ _)

theorem sign_coefficient_quotient (hb : b.coefficient ≠ 0) :
    (quotient a b).coefficient.sign = a.coefficient.sign * b.coefficient.sign := by
  by_cases ha : a.coefficient = 0
  · rw [quotient_of_eq_zero ha, ha, Int.sign_zero, Int.zero_mul]
  · cases hunit : b.isUnit with
    | true =>
        have hpos := toRat_pos_iff.mp ((toRat_of_isUnit hunit).symm ▸ one_pos)
        rw [quotient_of_isUnit hunit, Int.sign_eq_one_of_pos hpos, Int.mul_one]
    | false =>
        have hm := Int.natAbs_ne_zero.mpr hb
        have hlow := le_mul_places (Int.natAbs_ne_zero.mpr ha) hm
        have hone := Nat.le_mul_of_pos_left b.coefficient.natAbs
          (Numeral.tenPow_pos (precision - 1))
        have hpos := roundedQuotient_pos (Nat.pos_of_ne_zero hm) (hone.trans hlow)
        rw [quotient_eq ha hunit]
        dsimp only
        rw [Int.sign_mul, Int.sign_eq_one_of_pos (Int.natCast_pos.mpr hpos), Int.mul_one,
          Int.sign_mul, Int.sign_sign, Int.sign_sign]

theorem sign_toRat_toPrecision {digits : Nat} (hdigits : 0 < digits) (d : Decimal) :
    SignType.sign (d.toPrecision digits).toRat = SignType.sign d.toRat := by
  apply signType_eq_of_cast_eq
  rw [sign_toRat, sign_toRat, sign_toPrecision hdigits]

theorem sign_toPrecision_quotient (hb : b.coefficient ≠ 0) :
    SignType.sign (toPrecision precision (quotient a b)).toRat =
      SignType.sign (a.toRat * b.toRat) := by
  apply signType_eq_of_cast_eq
  rw [sign_toRat_toPrecision (by decide), sign_toRat, sign_coefficient_quotient hb, Int.cast_mul,
    sign_mul, SignType.coe_mul, sign_toRat, sign_toRat]

end Signs

/-!
## Errors
-/

section Errors

variable {a b : Decimal}

theorem exists_quotient_sub_eq (ha : a.coefficient ≠ 0) (hb : b.coefficient ≠ 0)
    (hunit : b.isUnit = false) :
    exists ratio : ℚ, (quotient a b).toRat - a.toRat / b.toRat =
      SignType.sign (a.toRat / b.toRat) * (round ratio - ratio) *
        10 ^ (-(quotient a b).scale) := by
  have hm := Nat.pos_of_ne_zero (Int.natAbs_ne_zero.mpr hb)
  have hexact := sign_mul_abs (a.toRat / b.toRat)
  have hquotient := toRat_quotient ha hunit
  have hscale : (quotient a b).scale =
      a.scale - b.scale + places a.coefficient.natAbs b.coefficient.natAbs := by
    rw [quotient_eq ha hunit]
  dsimp only at hquotient
  rw [cast_roundedQuotient _ hm, ← hscale] at hquotient
  rw [abs_div_toRat a b (places a.coefficient.natAbs b.coefficient.natAbs), ← hscale] at hexact
  refine ⟨((a.coefficient.natAbs * tenPow (places a.coefficient.natAbs b.coefficient.natAbs) :
    Nat) : ℚ) / b.coefficient.natAbs, ?_⟩
  linear_combination hquotient + hexact

theorem abs_quotient_sub_le (hb : b.coefficient ≠ 0) :
    |(quotient a b).toRat - a.toRat / b.toRat| ≤ 1 / 2 * 10 ^ (-(quotient a b).scale) := by
  have hhalf : (0 : ℚ) ≤ 1 / 2 * 10 ^ (-(quotient a b).scale) :=
    mul_nonneg (by norm_num) (zpow_ten_pos _).le
  by_cases ha : a.coefficient = 0
  · rw [quotient_of_eq_zero ha] at hhalf ⊢
    rw [toRat_eq_zero_iff.mpr ha, zero_div, sub_zero, abs_zero]
    exact hhalf
  · cases hunit : b.isUnit with
    | true =>
        rw [quotient_of_isUnit hunit] at hhalf ⊢
        rw [toRat_of_isUnit hunit, div_one, sub_self, abs_zero]
        exact hhalf
    | false =>
        rcases exists_quotient_sub_eq ha hb hunit with ⟨ratio, herror⟩
        have hsign : |(SignType.sign (a.toRat / b.toRat) : ℚ)| ≤ 1 := by
          cases SignType.sign (a.toRat / b.toRat) <;> norm_num
        rw [herror, abs_mul, abs_mul, abs_of_pos (zpow_ten_pos _), abs_sub_comm]
        apply mul_le_mul_of_nonneg_right _ (zpow_ten_pos _).le
        exact (mul_le_of_le_one_left (abs_nonneg _) hsign).trans (abs_sub_round _)

theorem abs_toPrecision_sub_le (digits : Nat) (d : Decimal) :
    |(d.toPrecision digits).toRat - d.toRat| ≤
      ((tenPow (d.digitCount - digits) : Nat) - 1) * 10 ^ (-d.scale) := by
  rcases Nat.lt_or_ge digits d.digitCount with hmany | hfew
  · have hbound := (natAbs_dropDigits_sub d (d.digitCount - digits)).left
    rw [toPrecision_of_lt hmany, toRat_dropDigits_sub, abs_mul, abs_of_pos (zpow_ten_pos _),
      ← Int.cast_abs, ← Nat.cast_natAbs]
    apply mul_le_mul_of_nonneg_right _ (zpow_ten_pos _).le
    rw [le_sub_iff_add_le]
    exact_mod_cast hbound
  · rw [toPrecision_of_le hfew, toRat_addZeros, sub_self, abs_zero, Nat.sub_eq_zero_of_le hfew,
      Numeral.tenPow_zero, Nat.cast_one, sub_self, zero_mul]

theorem precision_le_digitCount_quotient (hb : b.coefficient ≠ 0)
    (h : ¬ FitsIn precision (a.toRat / b.toRat)) : precision ≤ (quotient a b).digitCount := by
  have ha : a.coefficient ≠ 0 := by
    intro ha
    rw [toRat_eq_zero_iff.mpr ha, zero_div] at h
    exact h (fitsIn_zero (by decide))
  cases hunit : b.isUnit with
  | true =>
      rw [quotient_of_isUnit hunit]
      rw [toRat_of_isUnit hunit, div_one] at h
      exact (not_le.mp fun hle => h ⟨a, hle, rfl⟩).le
  | false =>
      have hm := Int.natAbs_ne_zero.mpr hb
      have hlow := (Nat.le_div_iff_mul_le (Nat.pos_of_ne_zero hm)).mpr
        (le_mul_places (Int.natAbs_ne_zero.mpr ha) hm)
      have hdigits : tenPow (precision - 1) ≤ (quotient a b).coefficient.natAbs := by
        rw [quotient_eq ha hunit]
        dsimp only
        rw [Int.natAbs_mul, Int.natAbs_mul, Int.natAbs_natCast, Int.natAbs_sign_of_ne_zero ha,
          Int.natAbs_sign_of_ne_zero hb, Nat.one_mul]
        exact hlow.trans (Nat.le_add_right _ _)
      apply Nat.le_of_pred_lt
      rw [← Nat.pow_lt_pow_iff_right (by decide : 1 < 10)]
      exact hdigits.trans_lt (Numeral.lt_tenPow_digitCount _)

/-- Both roundings of a quotient together move it by less than one unit of the last digit
that is kept. -/
theorem abs_toPrecision_quotient_sub_lt (hb : b.coefficient ≠ 0)
    (h : ¬ FitsIn precision (a.toRat / b.toRat)) :
    |(toPrecision precision (quotient a b)).toRat - a.toRat / b.toRat| <
      10 ^ (-99 : Int) * |a.toRat / b.toRat| := by
  have hcount := precision_le_digitCount_quotient hb h
  have hwhole := abs_quotient_sub_le (a := a) hb
  have hround := abs_toPrecision_sub_le precision (quotient a b)
  have hlead : ((tenPow 99 * tenPow ((quotient a b).digitCount - precision) : Nat) : ℚ) ≤
      (quotient a b).coefficient.natAbs := by
    have hne : (quotient a b).coefficient.natAbs ≠ 0 := by
      intro hzero
      rw [digitCount, hzero, Numeral.digitCount_of_lt (by decide)] at hcount
      exact absurd hcount (by decide)
    have hfirst : (quotient a b).digitCount - 1 =
        99 + ((quotient a b).digitCount - precision) := by
      rw [precision] at hcount ⊢
      omega
    rw [← Numeral.tenPow_add, ← hfirst]
    exact Nat.cast_le.mpr (Numeral.tenPow_digitCount_le hne)
  have hsize := mul_le_mul_of_nonneg_right hlead (zpow_ten_pos (-(quotient a b).scale)).le
  have hunit := zpow_ten_pos (-(quotient a b).scale)
  rw [← abs_toRat] at hsize
  generalize (quotient a b).toRat = q at *
  generalize (toPrecision precision (quotient a b)).toRat = result at *
  generalize (10 : ℚ) ^ (-(quotient a b).scale) = unit at *
  generalize tenPow ((quotient a b).digitCount - precision) = cut at *
  have herror := abs_sub_le result q (a.toRat / b.toRat)
  have hnear := abs_sub_abs_le_abs_sub q (a.toRat / b.toRat)
  have hkept : ((tenPow 99 : Nat) : ℚ) = 10 ^ 99 := by norm_num [tenPow]
  rw [Nat.cast_mul, hkept] at hsize
  norm_num at hsize ⊢
  linarith

end Errors

end Decimal
end Reckon
