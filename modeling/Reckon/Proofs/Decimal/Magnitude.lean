import Reckon.Proofs.Decimal.Mirror

/-!
# Numbers between powers of ten

The place of the first digit of a number says between which two powers of ten it lies, signs
apart. Products and reciprocals lie between the products and reciprocals of these. Rounding
does not carry a number past a power of ten, because that can itself be written with the
digits kept: it may come to lie on it. So a power of a base lies between the powers of the
two powers of ten around the base, whatever is rounded on the way.
-/

namespace Reckon
namespace Decimal

open Numeral (tenPow)

/-- Whether a number lies between two powers of ten, signs apart. -/
def Between (low high : Int) (q : ℚ) : Prop :=
  10 ^ low ≤ |q| ∧ |q| ≤ 10 ^ high

section Numbers

variable {low high low' high' : Int} {digits : Nat} {q r : ℚ} {a b d : Decimal}

theorem Between.ne_zero (h : Between low high q) : q ≠ 0 :=
  abs_pos.mp ((zpow_ten_pos low).trans_le h.left)

theorem Between.mono (h : Between low high q) (hlow : low' ≤ low) (hhigh : high ≤ high') :
    Between low' high' q :=
  ⟨(zpow_le_zpow_right₀ (by norm_num) hlow).trans h.left,
    h.right.trans (zpow_le_zpow_right₀ (by norm_num) hhigh)⟩

theorem Between.mul (hq : Between low high q) (hr : Between low' high' r) :
    Between (low + low') (high + high') (q * r) := by
  rw [Between, abs_mul, zpow_ten_add, zpow_ten_add]
  exact ⟨mul_le_mul hq.left hr.left (zpow_ten_pos _).le (abs_nonneg q),
    mul_le_mul hq.right hr.right (abs_nonneg r) (zpow_ten_pos _).le⟩

theorem Between.reciprocal (h : Between low high q) : Between (-high) (-low) (1 / q) := by
  have hpos := abs_pos.mpr h.ne_zero
  rw [Between, abs_div, abs_one, one_div, zpow_neg, zpow_neg]
  exact ⟨inv_anti₀ hpos h.right, inv_anti₀ (zpow_ten_pos low) h.left⟩

theorem between_leadingExponent (h : d.coefficient ≠ 0) :
    Between d.leadingExponent (d.leadingExponent + 1) d.toRat :=
  ⟨zpow_leadingExponent_le h, (abs_toRat_lt d).le⟩

theorem Between.leadingExponent_bounds (h : Between low high d.toRat) :
    low ≤ d.leadingExponent ∧ d.leadingExponent ≤ high := by
  have hne : d.coefficient ≠ 0 := mt toRat_eq_zero_iff.mpr h.ne_zero
  have hlow : (10 : ℚ) ^ low < 10 ^ (d.leadingExponent + 1) := h.left.trans_lt (abs_toRat_lt d)
  have hhigh : (10 : ℚ) ^ d.leadingExponent ≤ 10 ^ high :=
    (zpow_leadingExponent_le hne).trans h.right
  constructor
  · exact Int.lt_add_one_iff.mp ((zpow_lt_zpow_iff_right₀ (by norm_num)).mp hlow)
  · exact (zpow_le_zpow_iff_right₀ (by norm_num)).mp hhigh

/-!
## Rounding
-/

theorem between_of_units (hdigits : 0 < digits) {units : Int}
    (hlow : tenPow (digits - 1) ≤ units.natAbs) (hhigh : units.natAbs ≤ tenPow digits) :
    Between (Int.log 10 |q|) (Int.log 10 |q| + 1) (units * lastPlace digits q) := by
  have hfirst : Int.log 10 |q| = ((digits - 1 : Nat) : Int) + (Int.log 10 |q| + 1 - digits) := by
    omega
  have hnext : Int.log 10 |q| + 1 = (digits : Int) + (Int.log 10 |q| + 1 - digits) := by omega
  have hplace := (lastPlace_pos digits q).le
  have habs : |(units * lastPlace digits q : ℚ)| = units.natAbs * lastPlace digits q := by
    rw [abs_mul, abs_of_pos (lastPlace_pos digits q), ← Int.cast_abs, ← Nat.cast_natAbs]
  rw [Between, habs]
  constructor
  · rw [hfirst, zpow_ten_add, ← cast_tenPow]
    exact mul_le_mul_of_nonneg_right (Nat.cast_le.mpr hlow) hplace
  · rw [hnext, zpow_ten_add, ← cast_tenPow]
    exact mul_le_mul_of_nonneg_right (Nat.cast_le.mpr hhigh) hplace

theorem fitsIn_of_abs_eq_zpow (hdigits : 0 < digits) {place : Int} (h : |q| = 10 ^ place) :
    FitsIn digits q := by
  have hone : tenPow 0 ≤ tenPow digits := Numeral.tenPow_le (Nat.zero_le digits)
  rcases eq_or_eq_neg_of_abs_eq h with rfl | rfl
  · have hnumber : (⟨1, -place⟩ : Decimal).toRat = 10 ^ place := by
      rw [toRat, Int.cast_one, one_mul, neg_neg]
    exact hnumber ▸ fitsIn_of_natAbs_le hdigits hone
  · have hnumber : (⟨-1, -place⟩ : Decimal).toRat = -10 ^ place := by
      rw [toRat, Int.cast_neg, Int.cast_one, neg_one_mul, neg_neg]
    exact hnumber ▸ fitsIn_of_natAbs_le hdigits hone

/-- What rounding makes of a number stays between powers of ten, if it does not leave the
two that are next to the number and keeps every power of ten. -/
theorem Between.of_rounding (h : Between low high q)
    (hround : Between (Int.log 10 |q|) (Int.log 10 |q| + 1) r)
    (hexact : |q| = 10 ^ high -> r = q) : Between low high r := by
  have hpos := abs_pos.mpr h.ne_zero
  rcases h.right.lt_or_eq with hlt | heq
  · have hlow : low ≤ Int.log 10 |q| := (Int.zpow_le_iff_le_log (by norm_num) hpos).mp h.left
    have hhigh : Int.log 10 |q| + 1 ≤ high :=
      (Int.lt_zpow_iff_log_lt (by norm_num) hpos).mp hlt
    exact hround.mono hlow hhigh
  · rw [hexact heq]
    exact h

theorem Between.toPrecision (hdigits : 0 < digits) (h : Between low high d.toRat) :
    Between low high (toPrecision digits d).toRat := by
  have hne : d.coefficient ≠ 0 := mt toRat_eq_zero_iff.mpr h.ne_zero
  rcases natAbs_toPrecision hdigits hne with ⟨hleast, hmost⟩
  apply h.of_rounding
  · rw [toRat_toPrecision, rounded, ← coefficient_toPrecision hne]
    exact between_of_units hdigits hleast hmost
  · intro hpower
    exact toRat_toPrecision_of_fitsIn hdigits (fitsIn_of_abs_eq_zpow hdigits hpower)

theorem natAbs_round_bounds {m : ℚ} {k n : Nat} (hlow : (k : ℚ) ≤ m) (hhigh : m < n) :
    k ≤ (round m).natAbs ∧ (round m).natAbs ≤ n := by
  have hleast : (k : Int) ≤ round m := by
    rw [round_eq, Int.le_floor, Int.cast_natCast]
    linarith
  have hmost : round m ≤ n := by
    rw [round_eq, ← Int.lt_add_one_iff, Int.floor_lt]
    push_cast
    linarith
  omega

theorem Between.nearest (hdigits : 0 < digits) (h : Between low high q) :
    Between low high (nearest digits q) := by
  rcases abs_units_bounds hdigits h.ne_zero with ⟨hleast, hmost⟩
  rw [abs_div, abs_of_pos (lastPlace_pos digits q)] at hleast hmost
  rcases natAbs_round_bounds hleast hmost with ⟨hlow, hhigh⟩
  apply h.of_rounding
  · have hsign : ((SignType.sign q : Int) * round (|q| / lastPlace digits q)).natAbs =
        (round (|q| / lastPlace digits q)).natAbs := by
      rcases h.ne_zero.lt_or_gt with hneg | hpos
      · rw [sign_neg hneg, SignType.coe_neg_one, Int.neg_one_mul, Int.natAbs_neg]
      · rw [sign_pos hpos, SignType.coe_one, Int.one_mul]
    have hbounds := between_of_units (q := q) hdigits (hsign ▸ hlow) (hsign ▸ hhigh)
    rw [Int.cast_mul, SignType.intCast_cast] at hbounds
    exact hbounds
  · intro hpower
    exact nearest_of_fitsIn hdigits (fitsIn_of_abs_eq_zpow hdigits hpower)

/-!
## Products, powers and reciprocals
-/

theorem Between.roundedProduct (ha : Between low high a.toRat) (hb : Between low' high' b.toRat) :
    Between (low + low') (high + high') (roundedProduct a b).toRat := by
  have hproduct := ha.mul hb
  rw [← toRat_plainProduct] at hproduct
  exact hproduct.toPrecision (by decide)

theorem Between.power (h : Between low high d.toRat) (exponent : Nat) :
    Between (exponent * low) (exponent * high) (power d exponent).toRat := by
  have hone : (ofInt 1).toRat = 1 := toRat_of_isUnit (by decide)
  have hproduct : forall {m k : Nat} {a b : Decimal}, Between (m * low) (m * high) a.toRat ->
      Between (k * low) (k * high) b.toRat ->
        Between ((m + k : Nat) * low) ((m + k : Nat) * high)
          (Decimal.roundedProduct a b).toRat := by
    intro m k a b ha hb
    rw [Nat.cast_add, add_mul, add_mul]
    exact ha.roundedProduct hb
  apply power_graded (fun count a => Between (count * low) (count * high) a.toRat)
    (fun count a => Between (count * low) (count * high) a.toRat) hproduct
    (fun hb => hproduct hb hb)
  · rw [Nat.cast_zero, zero_mul, zero_mul, hone, Between, zpow_zero, abs_one]
    exact ⟨le_refl 1, le_refl 1⟩
  · rw [Nat.cast_one, one_mul, one_mul]
    exact h

theorem Between.inverse? (h : Between low high a.toRat) (hb : a.inverse? = some b) :
    Between (-high) (-low) b.toRat := by
  have hne : a.coefficient ≠ 0 := mt toRat_eq_zero_iff.mpr h.ne_zero
  rw [Decimal.inverse?, div?, isZero, beq_eq_false_iff_ne.mpr hne, if_neg Bool.false_ne_true,
    Option.some_inj] at hb
  rw [← hb, toRat_toPrecision_quotient_one hne]
  exact h.reciprocal.nearest (by decide)

end Numbers

end Decimal
end Reckon
