import Mathlib.Algebra.Order.Ring.Pow
import Mathlib.RingTheory.Int.Basic
import Mathlib.RingTheory.Multiplicity
import Mathlib.Tactic.Linarith
import Reckon.Proofs.Decimal.Moderate

/-!
# How close powers are

A power is built from products that are each brought to the working precision, and what
was rounded away of a square is squared again with it. The errors compound to no more than
that of as many roundings as there are factors. A power that can be written with the digits
kept is exact, because no power of the same base with fewer factors has more digits.
-/

namespace Reckon
namespace Decimal

open Numeral (tenPow)

/-!
## Rounding again and again
-/

/-- The most by which rounding to the working precision changes a number, in proportion to
it: one unit of the hundredth digit of a number that begins with a one. -/
def unitError : ℚ :=
  10 ^ (-99 : Int)

/-- Whether `q` can be what becomes of `x` when it is rounded so many times. -/
def RoundedTimes (count : Nat) (x q : ℚ) : Prop :=
  exists factor, (1 - unitError) ^ count ≤ factor ∧ factor ≤ (1 + unitError) ^ count ∧
    q = x * factor

section Errors

variable {m n : Nat} {a b d : Decimal} {x y q r : ℚ}

theorem unitError_pos : 0 < unitError :=
  zpow_ten_pos _

theorem unitError_lt_one : unitError < 1 := by
  norm_num [unitError]

theorem roundedTimes_zero (x : ℚ) : RoundedTimes 0 x x := by
  refine ⟨1, ?_, ?_, (mul_one x).symm⟩
  · rw [pow_zero]
  · rw [pow_zero]

theorem RoundedTimes.trans (h : RoundedTimes m x q) (h' : RoundedTimes n q r) :
    RoundedTimes (m + n) x r := by
  rcases h with ⟨f, hlow, hhigh, rfl⟩
  rcases h' with ⟨g, hlow', hhigh', rfl⟩
  have hpos := pow_pos (sub_pos.mpr unitError_lt_one)
  refine ⟨f * g, ?_, ?_, mul_assoc x f g⟩
  · rw [pow_add]
    exact mul_le_mul hlow hlow' (hpos n).le ((hpos m).le.trans hlow)
  · rw [pow_add]
    exact mul_le_mul hhigh hhigh' ((hpos n).le.trans hlow') (((hpos m).le.trans hlow).trans hhigh)

theorem RoundedTimes.mul (h : RoundedTimes m x q) (h' : RoundedTimes n y r) :
    RoundedTimes (m + n) (x * y) (q * r) := by
  rcases h with ⟨f, hlow, hhigh, rfl⟩
  have hleft : RoundedTimes m (x * y) (x * f * y) := ⟨f, hlow, hhigh, mul_right_comm x f y⟩
  have hright : RoundedTimes n (x * f * y) (x * f * r) := by
    rcases h' with ⟨g, hlow', hhigh', rfl⟩
    exact ⟨g, hlow', hhigh', (mul_assoc _ y g).symm⟩
  exact hleft.trans hright

theorem abs_toPrecision_sub_le_unitError (d : Decimal) :
    |(toPrecision precision d).toRat - d.toRat| ≤ unitError * |d.toRat| := by
  by_cases hzero : d.coefficient = 0
  · have hnumber := toRat_eq_zero_iff.mpr hzero
    have hfits : FitsIn precision d.toRat := hnumber ▸ fitsIn_zero (by decide)
    rw [toRat_toPrecision_of_fitsIn (by decide) hfits, hnumber, sub_self, abs_zero, mul_zero]
  · have hplace : d.leadingExponent + 1 - precision = -99 + d.leadingExponent := by
      rw [precision]
      omega
    have herror := (abs_toPrecision_sub_lt precision d).left
    rw [hplace, zpow_ten_add] at herror
    exact herror.le.trans
      (mul_le_mul_of_nonneg_left (zpow_leadingExponent_le hzero) unitError_pos.le)

theorem roundedTimes_toPrecision (d : Decimal) :
    RoundedTimes 1 d.toRat (toPrecision precision d).toRat := by
  have herror := abs_toPrecision_sub_le_unitError d
  by_cases hzero : d.toRat = 0
  · rw [hzero, abs_zero, mul_zero, sub_zero, abs_nonpos_iff] at herror
    have hone : RoundedTimes 1 (0 : ℚ) 0 := by
      refine ⟨1, ?_, ?_, (mul_one 0).symm⟩
      · rw [pow_one]
        exact (sub_lt_self 1 unitError_pos).le
      · rw [pow_one]
        exact (lt_add_of_pos_right 1 unitError_pos).le
    rw [herror, hzero]
    exact hone
  · have hpos := abs_pos.mpr hzero
    have hratio : |(toPrecision precision d).toRat / d.toRat - 1| ≤ unitError := by
      rw [div_sub_one hzero, abs_div, div_le_iff₀ hpos]
      exact herror
    rcases abs_le.mp hratio with ⟨hlow, hhigh⟩
    refine ⟨(toPrecision precision d).toRat / d.toRat, ?_, ?_, (mul_div_cancel₀ _ hzero).symm⟩
    · rw [pow_one]
      linarith
    · rw [pow_one]
      linarith

theorem RoundedTimes.roundedProduct (ha : RoundedTimes m x a.toRat)
    (hb : RoundedTimes n y b.toRat) :
    RoundedTimes (m + n + 1) (x * y) (roundedProduct a b).toRat := by
  apply (ha.mul hb).trans
  rw [← toRat_plainProduct]
  exact roundedTimes_toPrecision _

theorem RoundedTimes.abs_sub_le (h : RoundedTimes n x q) :
    |q - x| ≤ |x| * ((1 + unitError) ^ n - 1) := by
  -- Roundings upwards and downwards compound to no more than roundings upwards alone.
  rcases h with ⟨factor, hlow, hhigh, rfl⟩
  have hpos := unitError_pos
  have hone := unitError_lt_one
  have hup := one_add_mul_le_pow (by linarith : -2 ≤ unitError) n
  have hdown := one_add_mul_le_pow (by linarith : -2 ≤ -unitError) n
  rw [← sub_eq_add_neg, mul_neg] at hdown
  have hfactor : |factor - 1| ≤ (1 + unitError) ^ n - 1 := by
    rw [abs_le]
    constructor
    · linarith
    · linarith
  rw [← mul_sub_one, abs_mul]
  exact mul_le_mul_of_nonneg_left hfactor (abs_nonneg x)

/-- The square that belongs to an exponent was made with one rounding less than the exponent
says, and the result takes that many again and one of its own. -/
theorem roundedTimes_power (base : Decimal) (exponent : Nat) :
    RoundedTimes exponent (base.toRat ^ exponent) (power base exponent).toRat := by
  have hone : (ofInt 1).toRat = 1 := toRat_of_isUnit (by decide)
  apply power_graded
    (fun count d => RoundedTimes count (base.toRat ^ count) d.toRat)
    (fun count d => exists less, count = less + 1 ∧
      RoundedTimes less (base.toRat ^ count) d.toRat)
  · rintro m k a b ha ⟨less, rfl, hb⟩
    rw [pow_add]
    exact ha.roundedProduct hb
  · rintro k b ⟨less, rfl, hb⟩
    refine ⟨less + 1 + less, (Nat.add_assoc _ _ _).symm, ?_⟩
    rw [pow_add, Nat.add_right_comm]
    exact hb.roundedProduct hb
  · rw [pow_zero, hone]
    exact roundedTimes_zero 1
  · refine ⟨0, rfl, ?_⟩
    rw [pow_one]
    exact roundedTimes_zero _

end Errors

/-!
## Powers that can be written with the digits kept
-/

section Digits

variable {digits : Nat} {a b : Decimal} {m n : Nat}

theorem not_ten_dvd_pow {n : Int} (h : ¬ 10 ∣ n) (k : Nat) : ¬ 10 ∣ n ^ k := by
  intro hdvd
  have htwo : ((2 : Nat) : Int) ∣ n ^ k := Dvd.dvd.trans (by decide) hdvd
  have hfive : ((5 : Nat) : Int) ∣ n ^ k := Dvd.dvd.trans (by decide) hdvd
  have htwo' := Int.Prime.dvd_pow' (by decide) htwo
  have hfive' := Int.Prime.dvd_pow' (by decide) hfive
  omega

theorem digitCount_le_of_not_ten_dvd (h : a.toRat = b.toRat) (hten : ¬ 10 ∣ a.coefficient) :
    a.digitCount ≤ b.digitCount := by
  have hne : a.coefficient ≠ 0 := fun hzero => hten (hzero ▸ dvd_zero 10)
  rcases le_total a.scale b.scale with hscale | hscale
  · rw [eq_addZeros_of_toRat_eq h hscale, digitCount_addZeros hne]
    exact Nat.le_add_right _ _
  · have hzeros := eq_addZeros_of_toRat_eq h.symm hscale
    cases hcount : (a.scale - b.scale).toNat with
    | zero =>
        rw [hcount, addZeros, Numeral.tenPow_zero, Int.natCast_one, Int.mul_one] at hzeros
        rw [digitCount, digitCount, hzeros]
    | succ count =>
        rw [hcount, addZeros, Numeral.tenPow_succ, Int.natCast_mul, ← Int.mul_assoc] at hzeros
        exact absurd ⟨_, (congrArg coefficient hzeros).trans (Int.mul_comm _ _)⟩ hten

theorem exists_not_ten_dvd (h : a.coefficient ≠ 0) :
    exists b : Decimal, b.toRat = a.toRat ∧ ¬ 10 ∣ b.coefficient := by
  have hfinite : FiniteMultiplicity 10 a.coefficient :=
    Int.finiteMultiplicity_iff.mpr ⟨by decide, h⟩
  rcases hfinite.exists_eq_pow_mul_and_not_dvd with ⟨core, hcore, hten⟩
  generalize multiplicity 10 a.coefficient = zeros at hcore
  refine ⟨⟨core, a.scale - zeros⟩, ?_, hten⟩
  have hadd : a = addZeros ⟨core, a.scale - zeros⟩ zeros := by
    have hpow : ((tenPow zeros : Nat) : Int) = 10 ^ zeros := Nat.cast_pow 10 zeros
    rw [addZeros, Int.sub_add_cancel, hpow, Int.mul_comm, ← hcore]
  conv_rhs => rw [hadd, toRat_addZeros]

/-- The power of a decimal with all its digits. -/
def exactPower (d : Decimal) (n : Nat) : Decimal :=
  ⟨d.coefficient ^ n, d.scale * n⟩

theorem toRat_exactPower (d : Decimal) (n : Nat) : (d.exactPower n).toRat = d.toRat ^ n := by
  rw [exactPower, toRat, toRat, mul_pow, Int.cast_pow, ← zpow_natCast (10 ^ (-d.scale)), ← zpow_mul,
    neg_mul]

theorem digitCount_exactPower_le {d : Decimal} (h : d.coefficient ≠ 0) (hle : m ≤ n) :
    (d.exactPower m).digitCount ≤ (d.exactPower n).digitCount := by
  have hpow : (d.coefficient ^ m).natAbs ≤ (d.coefficient ^ n).natAbs := by
    rw [Int.natAbs_pow, Int.natAbs_pow]
    exact Nat.pow_le_pow_right (Int.natAbs_pos.mpr h) hle
  exact Numeral.digitCount_le_of_lt (Numeral.digitCount_pos _)
    (hpow.trans_lt (Numeral.lt_tenPow_digitCount _))

theorem fitsIn_one (hdigits : 0 < digits) : FitsIn digits 1 := by
  refine ⟨ofInt 1, ?_, toRat_of_isUnit (by decide)⟩
  rw [digitCount, Numeral.digitCount_of_lt (by decide)]
  exact hdigits

theorem fitsIn_pow_of_le (hdigits : 0 < digits) (h : FitsIn digits (a.toRat ^ n)) (hle : m ≤ n) :
    FitsIn digits (a.toRat ^ m) := by
  by_cases hzero : a.coefficient = 0
  · rw [toRat_eq_zero_iff.mpr hzero]
    cases m with
    | zero =>
        rw [pow_zero]
        exact fitsIn_one hdigits
    | succ m =>
        rw [zero_pow (Nat.succ_ne_zero m)]
        exact fitsIn_zero hdigits
  · rcases exists_not_ten_dvd hzero with ⟨b, hb, hten⟩
    rcases h with ⟨d, hcount, hd⟩
    have hne : b.coefficient ≠ 0 := mt (coefficient_eq_zero_congr hb).mp hzero
    have hsame : (b.exactPower n).toRat = d.toRat := by
      rw [toRat_exactPower, hb, hd]
    refine ⟨b.exactPower m, ?_, ?_⟩
    · calc
        (b.exactPower m).digitCount ≤ (b.exactPower n).digitCount :=
          digitCount_exactPower_le hne hle
        _ ≤ d.digitCount := digitCount_le_of_not_ten_dvd hsame (not_ten_dvd_pow hten n)
        _ ≤ digits := hcount
    · rw [toRat_exactPower, hb]

theorem toRat_roundedProduct_of_fitsIn (h : FitsIn precision (a.toRat * b.toRat)) :
    (roundedProduct a b).toRat = a.toRat * b.toRat := by
  rw [← toRat_plainProduct] at h
  rw [Decimal.roundedProduct, toRat_toPrecision_of_fitsIn (by decide) h, toRat_plainProduct]

/-- All products on the way to a power are powers with fewer factors. -/
theorem toRat_power_of_fitsIn {base : Decimal} {exponent : Nat}
    (h : FitsIn precision (base.toRat ^ exponent)) :
    (power base exponent).toRat = base.toRat ^ exponent := by
  have hone : (ofInt 1).toRat = 1 := toRat_of_isUnit (by decide)
  have hproduct : forall {m k : Nat} {a b : Decimal},
      (m ≤ exponent -> a.toRat = base.toRat ^ m) -> (k ≤ exponent -> b.toRat = base.toRat ^ k) ->
        m + k ≤ exponent -> (roundedProduct a b).toRat = base.toRat ^ (m + k) := by
    intro m k a b ha hb hle
    have hexact : a.toRat * b.toRat = base.toRat ^ (m + k) := by
      rw [ha (Nat.le_of_add_right_le hle), hb (Nat.le_of_add_left_le hle), pow_add]
    rw [toRat_roundedProduct_of_fitsIn (hexact ▸ fitsIn_pow_of_le (by decide) h hle), hexact]
  apply power_graded (fun count d => count ≤ exponent -> d.toRat = base.toRat ^ count)
    (fun count d => count ≤ exponent -> d.toRat = base.toRat ^ count) hproduct
    (fun hb => hproduct hb hb) _ _ exponent (Nat.le_refl exponent)
  · intro _
    rw [pow_zero, hone]
  · intro _
    rw [pow_one]

end Digits

/-- A power is exact wherever it can be, and otherwise off by no more than what as many
roundings as it has factors can make of it. It always has the right sign. Behind the limit
on powers nothing traps on the way to it and to its reciprocal. -/
theorem power_exact_and_close (base : Decimal) (n : Nat) :
    (FitsIn 100 (base.toRat ^ n) -> (power base n).toRat = base.toRat ^ n) ∧
      |(power base n).toRat - base.toRat ^ n| ≤
        |base.toRat ^ n| * ((1 + 10 ^ (-99 : Int)) ^ n - 1) ∧
      SignType.sign (power base n).toRat = SignType.sign (base.toRat ^ n) ∧
      (base.digitCount ≤ 2 ^ 59 -> (base.leadingExponent.natAbs + 1) * n ≤ 2 ^ 40 ->
        LoopFits (ofInt 1) base n ∧ canDivide (ofInt 1) (power base n) = true) := by
  refine ⟨toRat_power_of_fitsIn, (roundedTimes_power base n).abs_sub_le, ?_, loopFits_of_limit⟩
  rw [sign_power, sign_pow]

/-- Fifty nines, whose square takes all of the hundred digits, behind a minus sign. -/
theorem power_exact_and_close_of_nines :
    let base : Decimal := ⟨-(10 ^ 50 - 1), 0⟩
    FitsIn 100 (base.toRat ^ 2) ∧ (power base 2).toRat = (10 ^ 50 - 1) ^ 2 ∧
      SignType.sign (power base 3).toRat = -1 := by
  intro base
  have hbase : base.toRat = -(10 ^ 50 - 1) := by
    norm_num [base, toRat]
  have hfits : FitsIn 100 (base.toRat ^ 2) := by
    refine ⟨⟨(10 ^ 50 - 1) ^ 2, 0⟩, by decide +kernel, ?_⟩
    rw [hbase]
    norm_num [toRat]
  refine ⟨hfits, ?_, ?_⟩
  · rw [(power_exact_and_close base 2).left hfits, hbase, neg_sq]
  · rw [(power_exact_and_close base 3).right.right.left, hbase, sign_neg (by norm_num)]

end Decimal
end Reckon
