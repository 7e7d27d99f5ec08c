import Mathlib.Algebra.Ring.Parity
import Reckon.Decimal.Division
import Reckon.Decimal.Power
import Reckon.Proofs.Decimal.Cohort

/-!
# Powers as numbers

A power is a row of products that are each rounded, so it depends on the number that is
raised and not on its digits. It is zero only for zero. Whether a decimal is a whole
number, and which one, depends on the number alone as well, and so does its normal form.
-/

namespace Reckon
namespace Decimal

open Numeral (tenPow)

/-!
## Whole numbers
-/

section Whole

variable {d : Decimal}

theorem toRat_eq_intCast_iff {n : Int} :
    d.toRat = n <-> d.coefficient * tenPow (-d.scale).toNat = n * tenPow d.scale.toNat := by
  have hne : ((tenPow d.scale.toNat : Nat) : ℚ) ≠ 0 :=
    Nat.cast_ne_zero.mpr (Numeral.tenPow_pos _).ne'
  have hplaces : -d.scale + d.scale.toNat = (-d.scale).toNat := by omega
  rw [← mul_left_inj' hne, toRat, mul_assoc, cast_tenPow, ← zpow_ten_add, hplaces,
    ← cast_tenPow, ← cast_tenPow]
  exact_mod_cast Iff.rfl

theorem isWhole_iff : d.isWhole = true <-> exists n : Int, d.toRat = n := by
  simp only [toRat_eq_intCast_iff]
  rw [isWhole, Bool.or_eq_true, decide_eq_true_iff, beq_iff_eq]
  rcases le_or_gt d.scale 0 with hscale | hscale
  · refine iff_of_true (.inl hscale) ⟨d.coefficient * tenPow (-d.scale).toNat, ?_⟩
    rw [Int.toNat_of_nonpos hscale, Numeral.tenPow_zero, Int.natCast_one, Int.mul_one]
  · have hzero : (-d.scale).toNat = 0 := by omega
    rw [or_iff_right (not_le.mpr hscale), hzero, Numeral.tenPow_zero, Int.natCast_one,
      Int.mul_one, ← Int.dvd_iff_emod_eq_zero]
    exact exists_congr fun n => by rw [Int.mul_comm]

theorem truncate_eq {n : Int} (h : d.toRat = n) : d.truncate = n := by
  have hpos : (tenPow d.scale.toNat : Int) ≠ 0 :=
    Int.natCast_ne_zero.mpr (Numeral.tenPow_pos _).ne'
  rw [truncate, toRat_eq_intCast_iff.mp h, Int.mul_tdiv_cancel _ hpos]

theorem leadingExponent_of_whole {n : Int} (h : d.toRat = n) (hne : n ≠ 0) :
    d.leadingExponent = Nat.log 10 n.natAbs := by
  have hcoefficient : d.coefficient ≠ 0 := by
    rw [ne_eq, ← toRat_eq_zero_iff, h]
    exact Int.cast_ne_zero.mpr hne
  rw [leadingExponent_eq_log hcoefficient, h, ← Int.cast_abs, ← Nat.cast_natAbs]
  exact Int.log_natCast 10 n.natAbs

end Whole

theorem isWhole_congr {a b : Decimal} (h : a.toRat = b.toRat) : a.isWhole = b.isWhole := by
  rw [Bool.eq_iff_iff, isWhole_iff, isWhole_iff, h]

theorem truncate_congr {a b : Decimal} (h : a.toRat = b.toRat) (hwhole : a.isWhole = true) :
    a.truncate = b.truncate := by
  rcases isWhole_iff.mp hwhole with ⟨n, hn⟩
  rw [truncate_eq hn, truncate_eq (h ▸ hn)]

/-!
## Normal form
-/

theorem tenPow_trailingZeros_dvd (n : Nat) : tenPow (trailingZeros n) ∣ n := by
  have hvalue := Numeral.ofDigitChars_digits n
  rw [← Numeral.trimZeros_append (Numeral.digits n), Numeral.ofDigitChars_append_zeros] at hvalue
  exact ⟨_, ((Nat.mul_comm _ _).trans hvalue).symm⟩

theorem toRat_normalized (d : Decimal) : d.normalized.toRat = d.toRat := by
  unfold normalized
  split
  · next hzero =>
      rw [toRat_eq_zero_iff.mpr (beq_iff_eq.mp hzero)]
      exact toRat_eq_zero_iff.mpr rfl
  · dsimp only
    generalize hzeros : trailingZeros d.coefficient.natAbs = zeros
    have hdvd : (tenPow zeros : Int) ∣ d.coefficient := by
      rw [Int.natCast_dvd, ← hzeros]
      exact tenPow_trailingZeros_dvd _
    have hadd : d = addZeros ⟨d.coefficient.tdiv (tenPow zeros), d.scale - zeros⟩ zeros := by
      rw [addZeros, Int.tdiv_mul_cancel hdvd, Int.sub_add_cancel]
    conv_rhs => rw [hadd, toRat_addZeros]

/-!
## Rounded products
-/

theorem toRat_plainProduct (a b : Decimal) :
    (plainProduct a b).toRat = a.toRat * b.toRat := by
  unfold plainProduct
  split
  · next ha => rw [toRat_normalized, toRat_of_isUnit ha, one_mul]
  · split
    · next hb => rw [toRat_normalized, toRat_of_isUnit hb, mul_one]
    · exact toRat_mul a b

theorem coefficient_roundedProduct_eq_zero_iff {a b : Decimal} :
    (roundedProduct a b).coefficient = 0 <-> a.coefficient = 0 ∨ b.coefficient = 0 := by
  rw [roundedProduct, ← Int.sign_eq_zero_iff_zero, sign_toPrecision (by decide),
    Int.sign_eq_zero_iff_zero, ← toRat_eq_zero_iff, toRat_plainProduct, mul_eq_zero,
    toRat_eq_zero_iff, toRat_eq_zero_iff]

theorem roundedProduct_eq_of_mul_eq {a a' b b' : Decimal}
    (h : a.toRat * b.toRat = a'.toRat * b'.toRat) (hne : a.toRat * b.toRat ≠ 0) :
    roundedProduct a b = roundedProduct a' b' := by
  apply toPrecision_congr
  · rw [toRat_plainProduct, toRat_plainProduct, h]
  · rw [ne_eq, ← toRat_eq_zero_iff, toRat_plainProduct]
    exact hne

theorem roundedProduct_congr {a a' b b' : Decimal} (ha : a.toRat = a'.toRat)
    (hb : b.toRat = b'.toRat) (hane : a.coefficient ≠ 0) (hbne : b.coefficient ≠ 0) :
    roundedProduct a b = roundedProduct a' b' := by
  apply roundedProduct_eq_of_mul_eq
  · rw [ha, hb]
  · exact mul_ne_zero (mt toRat_eq_zero_iff.mp hane) (mt toRat_eq_zero_iff.mp hbne)

/-!
## Repeated squaring
-/

theorem powerLoop_zero (result square : Decimal) : powerLoop result square 0 = result := by
  rw [powerLoop, if_pos rfl]

theorem power_zero (base : Decimal) : power base 0 = ofInt 1 :=
  powerLoop_zero _ _

section Steps

variable {exponent : Nat}

theorem powerLoop_of_even (h : Even exponent) (result square : Decimal) :
    powerLoop result square exponent =
      powerLoop result (roundedProduct square square) (exponent / 2) := by
  by_cases hexponent : exponent = 0
  · rw [hexponent, powerLoop_zero, powerLoop_zero]
  · have hrest : exponent / 2 ≠ 0 := by
      have := Nat.even_iff.mp h
      omega
    have hbit : exponent % 2 ≠ 1 := by
      rw [Nat.even_iff.mp h]
      exact Nat.zero_ne_one
    conv_lhs => rw [powerLoop, if_neg hexponent, if_neg hbit]
    dsimp only
    rw [if_neg hrest]

theorem powerLoop_of_odd (h : Odd exponent) (result square : Decimal) :
    powerLoop result square exponent =
      powerLoop (roundedProduct result square) (roundedProduct square square) (exponent / 2) := by
  have hexponent : exponent ≠ 0 := h.pos.ne'
  conv_lhs => rw [powerLoop, if_neg hexponent, if_pos (Nat.odd_iff.mp h)]
  dsimp only
  by_cases hrest : exponent / 2 = 0
  · rw [hrest, powerLoop_zero, powerLoop_zero]
  · rw [if_neg hrest]

/-- What a result and a square keep when they are multiplied, the loop keeps, and where products
add up a count, the count of the square is multiplied by the exponent. -/
theorem powerLoop_graded (ofResult ofSquare : Nat -> Decimal -> Prop)
    (hproduct : forall {m k : Nat} {a b : Decimal}, ofResult m a -> ofSquare k b ->
      ofResult (m + k) (roundedProduct a b))
    (hsquare : forall {k : Nat} {b : Decimal}, ofSquare k b ->
      ofSquare (k + k) (roundedProduct b b))
    {m k : Nat} {result square : Decimal} (hm : ofResult m result) (hk : ofSquare k square)
    (exponent : Nat) : ofResult (m + k * exponent) (powerLoop result square exponent) := by
  induction exponent using Nat.strong_induction_on generalizing m k result square with
  | h exponent ih =>
      rcases Nat.even_or_odd exponent with heven | hodd
      · by_cases hexponent : exponent = 0
        · rw [hexponent, powerLoop_zero, Nat.mul_zero, Nat.add_zero]
          exact hm
        · have hrest := ih (exponent / 2)
            (Nat.div_lt_self (Nat.pos_of_ne_zero hexponent) one_lt_two) hm (hsquare hk)
          rw [← two_mul, Nat.mul_right_comm, Nat.two_mul_div_two_of_even heven,
            Nat.mul_comm] at hrest
          rw [powerLoop_of_even heven]
          exact hrest
      · have hrest := ih (exponent / 2) (Nat.div_lt_self hodd.pos one_lt_two) (hproduct hm hk)
          (hsquare hk)
        have hcount : m + k + (k + k) * (exponent / 2) = m + k * exponent := by
          conv_rhs => rw [← Nat.two_mul_div_two_add_one_of_odd hodd]
          ring
        rw [powerLoop_of_odd hodd, ← hcount]
        exact hrest

theorem power_graded (ofResult ofSquare : Nat -> Decimal -> Prop)
    (hproduct : forall {m k : Nat} {a b : Decimal}, ofResult m a -> ofSquare k b ->
      ofResult (m + k) (roundedProduct a b))
    (hsquare : forall {k : Nat} {b : Decimal}, ofSquare k b ->
      ofSquare (k + k) (roundedProduct b b))
    {base : Decimal} (hone : ofResult 0 (ofInt 1)) (hbase : ofSquare 1 base) (exponent : Nat) :
    ofResult exponent (power base exponent) := by
  have hloop := powerLoop_graded ofResult ofSquare hproduct hsquare hone hbase exponent
  rw [Nat.zero_add, Nat.one_mul] at hloop
  exact hloop

end Steps

theorem coefficient_powerLoop_eq_zero_iff (result square : Decimal) (exponent : Nat) :
    (powerLoop result square exponent).coefficient = 0 <->
      result.coefficient = 0 ∨ exponent ≠ 0 ∧ square.coefficient = 0 := by
  induction result, square, exponent using powerLoop.induct with
  | case1 result square =>
      rw [powerLoop_zero]
      exact (or_iff_left fun h => h.left rfl).symm
  | case2 result square exponent hexponent result' rest square' ih =>
      have hstep : powerLoop result square exponent = powerLoop result' square' rest := by
        rw [powerLoop, if_neg hexponent]
        rfl
      have hresult : result'.coefficient = 0 <->
          result.coefficient = 0 ∨ exponent % 2 = 1 ∧ square.coefficient = 0 := by
        by_cases hodd : exponent % 2 = 1
        · have htaken : result' = roundedProduct result square := dif_pos hodd
          rw [htaken, coefficient_roundedProduct_eq_zero_iff, and_iff_right hodd]
        · have hleft : result' = result := dif_neg hodd
          rw [hleft]
          exact (or_iff_left fun h => hodd h.left).symm
      have hsquare : rest ≠ 0 -> (square'.coefficient = 0 <-> square.coefficient = 0) := by
        intro hrest
        have hsquared : square' = roundedProduct square square := dif_neg hrest
        rw [hsquared, coefficient_roundedProduct_eq_zero_iff, or_self]
      have hbits : exponent ≠ 0 <-> exponent % 2 = 1 ∨ rest ≠ 0 := by omega
      rw [hstep, ih, hresult, and_congr_right hsquare, hbits, or_and_right, or_assoc]

theorem coefficient_power_eq_zero_iff (base : Decimal) (exponent : Nat) :
    (power base exponent).coefficient = 0 <-> exponent ≠ 0 ∧ base.coefficient = 0 :=
  (coefficient_powerLoop_eq_zero_iff _ _ _).trans (or_iff_right (by decide))

theorem powerLoop_congr {result square square' : Decimal} {exponent : Nat}
    (h : square.toRat = square'.toRat) (hresult : result.coefficient ≠ 0)
    (hsquare : square.coefficient ≠ 0) (hexponent : exponent ≠ 0) :
    powerLoop result square exponent = powerLoop result square' exponent := by
  -- One turn of the loop is enough to bring both its factors into a form that depends on the
  -- numbers alone.
  have hproduct := roundedProduct_congr (rfl : result.toRat = result.toRat) h hresult hsquare
  have hsquares := roundedProduct_congr h h hsquare hsquare
  unfold powerLoop
  rw [if_neg hexponent, if_neg hexponent, hproduct, hsquares]
  dsimp only
  by_cases hrest : exponent / 2 = 0
  · rw [hrest, powerLoop_zero, powerLoop_zero]
  · rw [if_neg hrest, if_neg hrest]

/-- Powers of one number other than zero are the same decimal, however it is written. -/
theorem power_congr {a b : Decimal} (h : a.toRat = b.toRat) (hne : a.coefficient ≠ 0)
    (exponent : Nat) : power a exponent = power b exponent := by
  by_cases hexponent : exponent = 0
  · rw [hexponent, power_zero, power_zero]
  · exact powerLoop_congr h (by decide) hne hexponent

section Congruence

variable {a b : Decimal}

theorem coefficient_power_eq_zero_congr (h : a.toRat = b.toRat) (exponent : Nat) :
    (power a exponent).coefficient = 0 <-> (power b exponent).coefficient = 0 := by
  rw [coefficient_power_eq_zero_iff, coefficient_power_eq_zero_iff, coefficient_eq_zero_congr h]

theorem power_eq_or_eq_zero (h : a.toRat = b.toRat) (exponent : Nat) :
    power a exponent = power b exponent ∨
      (power a exponent).coefficient = 0 ∧ (power b exponent).coefficient = 0 := by
  by_cases hzero : (power a exponent).coefficient = 0
  · exact .inr ⟨hzero, (coefficient_power_eq_zero_congr h exponent).mp hzero⟩
  · left
    rw [coefficient_power_eq_zero_iff, not_and_or, not_not] at hzero
    rcases hzero with rfl | hne
    · rw [power_zero, power_zero]
    · exact power_congr h hne exponent

theorem toRat_power_congr (h : a.toRat = b.toRat) (exponent : Nat) :
    (power a exponent).toRat = (power b exponent).toRat := by
  rcases power_eq_or_eq_zero h exponent with heq | ⟨hzero, hzero'⟩
  · rw [heq]
  · rw [toRat_eq_zero_iff.mpr hzero, toRat_eq_zero_iff.mpr hzero']

theorem inverse?_power_congr (h : a.toRat = b.toRat) (exponent : Nat) :
    (power a exponent).inverse? = (power b exponent).inverse? := by
  rcases power_eq_or_eq_zero h exponent with heq | ⟨hzero, hzero'⟩
  · rw [heq]
  · rw [inverse?, inverse?, div?, div?, isZero, isZero, hzero, hzero']
    rfl

end Congruence

end Decimal
end Reckon
