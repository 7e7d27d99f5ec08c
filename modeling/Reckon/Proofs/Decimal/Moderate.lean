import Reckon.Proofs.Decimal.Gaps
import Reckon.Proofs.Decimal.Magnitude

/-!
# Moderate scales

Where scales and numbers of digits are far from the ends of the range of scales, quotients
never trap. The limit on powers keeps all that is multiplied on the way to a power that
moderate, and its reciprocal too. So powers need not ask whether a product can be formed.
-/

namespace Reckon
namespace Decimal

open Numeral (tenPow)

section Numbers

variable {a b d result square : Decimal} {digits exponent n m : Nat}

/-- Whether the scale and the number of digits are far from the ends of the range. No
decimal that fits in memory has more digits. -/
def IsModerate (d : Decimal) : Prop :=
  d.scale.natAbs + d.digitCount ≤ 2 ^ 61

theorem digitCount_pos (d : Decimal) : 0 < d.digitCount :=
  Numeral.digitCount_pos _

/-!
## Quotients
-/

theorem places_le (n m : Nat) : places n m ≤ Numeral.digitCount m + precision := by
  have hn := Numeral.digitCount_pos n
  have hm := Numeral.digitCount_pos m
  have hshift : leastShift n m ≤ Numeral.digitCount m := by
    unfold leastShift
    dsimp only
    split
    · omega
    · omega
  rw [places]
  omega

theorem digitCount_quotient_le (ha : a.coefficient ≠ 0) (hb : b.coefficient ≠ 0)
    (hunit : b.isUnit = false) :
    (quotient a b).digitCount ≤
      a.digitCount + places a.coefficient.natAbs b.coefficient.natAbs + 1 := by
  have hm := Int.natAbs_pos.mpr hb
  apply Numeral.digitCount_le_of_lt (Nat.succ_pos _)
  rw [natAbs_coefficient_quotient ha hb hunit]
  apply Nat.lt_of_le_of_lt (m := tenPow (a.digitCount +
    places a.coefficient.natAbs b.coefficient.natAbs))
  · apply roundedQuotient_le hm
    rw [Numeral.tenPow_add]
    apply Nat.lt_of_lt_of_le _ (Nat.le_mul_of_pos_right _ hm)
    exact Nat.mul_lt_mul_of_pos_right (Numeral.lt_tenPow_digitCount _) (Numeral.tenPow_pos _)
  · rw [Numeral.tenPow_succ]
    have := Numeral.tenPow_pos (a.digitCount +
      places a.coefficient.natAbs b.coefficient.natAbs)
    omega

theorem canRound_of_isModerate (h : d.IsModerate) : canRound precision d = true := by
  have hkept : precision = 100 := rfl
  rw [IsModerate] at h
  rw [canRound, isScale_iff]
  omega

/-- Quotients of moderate decimals never trap. -/
theorem canDivide_of_isModerate (ha : a.IsModerate) (hb : b.IsModerate) :
    canDivide a b = true := by
  rw [canDivide]
  by_cases hzero : b.coefficient = 0
  · rw [isZero, beq_iff_eq.mpr hzero, Bool.true_or]
  · by_cases hnumerator : a.coefficient = 0
    · rw [quotient_of_eq_zero hnumerator, canRound_of_isModerate ha, isZero, isZero,
        beq_iff_eq.mpr hnumerator, Bool.true_or, Bool.true_or, Bool.true_and, Bool.or_true]
    · cases hunit : b.isUnit with
      | true =>
          rw [quotient_of_isUnit hunit, canRound_of_isModerate ha, Bool.or_true, Bool.true_or,
            Bool.true_and, Bool.or_true]
      | false =>
          have hkept : precision = 100 := rfl
          have hcount := digitCount_quotient_le hnumerator hzero hunit
          have hplaces := places_le a.coefficient.natAbs b.coefficient.natAbs
          have hscale : (quotient a b).scale =
              a.scale - b.scale + places a.coefficient.natAbs b.coefficient.natAbs := by
            rw [quotient_eq hnumerator hunit]
          rw [IsModerate] at ha hb
          rw [← digitCount] at hplaces
          have hdifference : isScale (a.scale - b.scale) = true := by
            rw [isScale_iff]
            omega
          have hfirst : isScale (quotient a b).scale = true := by
            rw [isScale_iff]
            omega
          have hround : canRound precision (quotient a b) = true := by
            rw [canRound, isScale_iff]
            omega
          rw [hdifference, hfirst, hround, Bool.true_and, Bool.or_true, Bool.true_and,
            Bool.or_true]

/-!
## Products
-/

/-- Whether a product can be formed and rounded. -/
def ProductFits (a b : Decimal) : Prop :=
  isScale (plainProduct a b).scale = true ∧ canRound precision (plainProduct a b) = true

/-- The factors that meet on the way to a power: both are zero or neither is, or the first
one is the one that powers start with. -/
def Meets (result square : Decimal) : Prop :=
  (result.coefficient = 0 <-> square.coefficient = 0) ∨ result = ofInt 1

theorem natAbs_scale_normalized_le (d : Decimal) :
    d.normalized.scale.natAbs ≤ d.scale.natAbs + d.digitCount := by
  unfold normalized
  split
  · exact Nat.zero_le _
  · next hzero =>
      have hpos := Int.natAbs_pos.mpr (mt beq_iff_eq.mpr hzero)
      have hdvd := Nat.le_of_dvd hpos (tenPow_trailingZeros_dvd d.coefficient.natAbs)
      have hzeros : trailingZeros d.coefficient.natAbs ≤ d.digitCount := by
        by_contra hmany
        have hless := Numeral.tenPow_le (Nat.le_of_not_le hmany)
        have hdigits := Numeral.lt_tenPow_digitCount d.coefficient.natAbs
        exact absurd (hdigits.trans_le hless) (Nat.not_lt.mpr hdvd)
      dsimp only
      omega

theorem isScale_plainProduct (ha : a.IsModerate) (hb : b.IsModerate) :
    isScale (plainProduct a b).scale = true := by
  have hleft := natAbs_scale_normalized_le a
  have hright := natAbs_scale_normalized_le b
  rw [IsModerate] at ha hb
  rw [isScale_iff]
  unfold plainProduct
  split
  · omega
  · split
    · omega
    · next hunit hunit' =>
        have hscale : (a * b).scale = a.scale + b.scale := by
          show (mul a b).scale = _
          rw [mul, if_neg hunit, if_neg hunit']
        omega

theorem natAbs_leadingExponent_normalized_le (d : Decimal) :
    d.normalized.leadingExponent.natAbs ≤ d.leadingExponent.natAbs := by
  by_cases hzero : d.coefficient = 0
  · rw [normalized, isZero, beq_iff_eq.mpr hzero, if_pos rfl, leadingExponent_of_eq_zero rfl]
    exact Nat.zero_le _
  · rw [leadingExponent_congr (toRat_normalized d).symm hzero]

theorem natAbs_leadingExponent_plainProduct_le (h : Meets a b) :
    (plainProduct a b).leadingExponent.natAbs ≤
      a.leadingExponent.natAbs + b.leadingExponent.natAbs + 2 := by
  rcases h with hzeros | rfl
  · by_cases hzero : a.coefficient = 0
    · have hunit : a.isUnit = false := not_isUnit_of_eq_zero hzero
      have hunit' : b.isUnit = false := not_isUnit_of_eq_zero (hzeros.mp hzero)
      have hproduct : plainProduct a b = ⟨a.coefficient * b.coefficient, a.scale + b.scale⟩ := by
        rw [plainProduct, hunit, hunit', if_neg Bool.false_ne_true, if_neg Bool.false_ne_true]
        show mul a b = _
        rw [mul, hunit, hunit', if_neg Bool.false_ne_true, if_neg Bool.false_ne_true]
      have hcoefficient : (plainProduct a b).coefficient = 0 := by
        rw [hproduct, hzero, Int.zero_mul]
      rw [leadingExponent_of_eq_zero hzero, leadingExponent_of_eq_zero (hzeros.mp hzero),
        leadingExponent_of_eq_zero hcoefficient, hproduct]
      dsimp only
      omega
    · have hbetween := (between_leadingExponent hzero).mul
        (between_leadingExponent (mt hzeros.mpr hzero))
      rw [← toRat_plainProduct] at hbetween
      have hbounds := hbetween.leadingExponent_bounds
      omega
  · have hproduct : plainProduct (ofInt 1) b = b.normalized := if_pos (by decide)
    have hnormalized := natAbs_leadingExponent_normalized_le b
    rw [hproduct]
    omega

/-- How far a decimal can carry a first digit when it is multiplied with and rounded. -/
def weight (d : Decimal) : Nat :=
  d.leadingExponent.natAbs + 101

theorem weight_roundedProduct_le (h : Meets a b) :
    (roundedProduct a b).weight ≤ a.weight + b.weight := by
  have hkept : precision = 100 := rfl
  have hproduct := natAbs_leadingExponent_plainProduct_le h
  have hcount := digitCount_toPrecision_le (by decide : 0 < precision) (plainProduct a b)
  rw [← roundedProduct] at hcount
  have hpos := digitCount_pos (roundedProduct a b)
  have hscale : (roundedProduct a b).scale =
      precision - 1 - (plainProduct a b).leadingExponent := scale_toPrecision _ _
  rw [weight, weight, weight, leadingExponent]
  omega

theorem isModerate_roundedProduct (h : Meets a b) (hweight : a.weight + b.weight ≤ 2 ^ 60) :
    (roundedProduct a b).IsModerate := by
  have hkept : precision = 100 := rfl
  have hproduct := natAbs_leadingExponent_plainProduct_le h
  have hcount := digitCount_toPrecision_le (by decide : 0 < precision) (plainProduct a b)
  rw [← roundedProduct] at hcount
  have hscale : (roundedProduct a b).scale =
      precision - 1 - (plainProduct a b).leadingExponent := scale_toPrecision _ _
  rw [weight, weight] at hweight
  rw [IsModerate]
  omega

theorem productFits_of_weight (ha : a.IsModerate) (hb : b.IsModerate) (h : Meets a b)
    (hweight : a.weight + b.weight ≤ 2 ^ 60) : ProductFits a b := by
  have hkept : precision = 100 := rfl
  have hproduct := natAbs_leadingExponent_plainProduct_le h
  rw [weight, weight] at hweight
  refine ⟨isScale_plainProduct ha hb, ?_⟩
  rw [canRound_iff]
  omega

theorem meets_self (d : Decimal) : Meets d d :=
  .inl Iff.rfl

theorem Meets.even (h : Meets result square) : Meets result (roundedProduct square square) := by
  refine h.imp_left fun hzeros => ?_
  rw [hzeros, coefficient_roundedProduct_eq_zero_iff, or_self]

theorem Meets.odd (h : Meets result square) :
    Meets (roundedProduct result square) (roundedProduct square square) := by
  left
  rw [coefficient_roundedProduct_eq_zero_iff, coefficient_roundedProduct_eq_zero_iff, or_self]
  rcases h with hzeros | rfl
  · rw [hzeros, or_self]
  · exact or_iff_right (by decide)

/-!
## Powers
-/

/-- Whether all products can be formed and rounded that the loop forms. -/
inductive LoopFits : Decimal -> Decimal -> Nat -> Prop where
  | done (result square : Decimal) : LoopFits result square 0
  | last {result square : Decimal} : ProductFits result square -> LoopFits result square 1
  | even {result square : Decimal} {exponent : Nat} : 1 < exponent -> Even exponent ->
      ProductFits square square ->
        LoopFits result (roundedProduct square square) (exponent / 2) ->
          LoopFits result square exponent
  | odd {result square : Decimal} {exponent : Nat} : 1 < exponent -> Odd exponent ->
      ProductFits result square -> ProductFits square square ->
        LoopFits (roundedProduct result square) (roundedProduct square square) (exponent / 2) ->
          LoopFits result square exponent

/-- The loop stays moderate if the weights of its factors, taken as often as they are
multiplied, do. -/
theorem loopFits_of_weight (hresult : result.IsModerate) (hsquare : square.IsModerate)
    (hmeets : Meets result square) (h : result.weight + square.weight * exponent ≤ 2 ^ 60) :
    LoopFits result square exponent ∧ (powerLoop result square exponent).IsModerate := by
  induction exponent using Nat.strong_induction_on generalizing result square with
  | h exponent ih =>
      have hsquared := weight_roundedProduct_le (meets_self square)
      have hmultiplied := weight_roundedProduct_le hmeets
      rcases Nat.lt_trichotomy exponent 1 with hnone | rfl | hmany
      · have hzero : exponent = 0 := by omega
        rw [hzero, powerLoop_zero]
        exact ⟨.done _ _, hresult⟩
      · have hloop : powerLoop result square 1 = roundedProduct result square :=
          (powerLoop_of_odd odd_one _ _).trans (powerLoop_zero _ _)
        rw [Nat.mul_one] at h
        rw [hloop]
        exact ⟨.last (productFits_of_weight hresult hsquare hmeets h),
          isModerate_roundedProduct hmeets h⟩
      · have hhalf : exponent / 2 < exponent := by omega
        have htwice : square.weight * 2 ≤ square.weight * exponent :=
          Nat.mul_le_mul_left _ hmany
        have hlight : square.weight + square.weight ≤ 2 ^ 60 := by omega
        have hfits := productFits_of_weight hsquare hsquare (meets_self square) hlight
        have hmoderate := isModerate_roundedProduct (meets_self square) hlight
        have hrest := Nat.mul_le_mul_right (exponent / 2) hsquared
        rw [← Nat.two_mul, Nat.mul_comm 2, Nat.mul_assoc] at hrest
        rcases Nat.even_or_odd exponent with heven | hodd
        · rw [Nat.two_mul_div_two_of_even heven] at hrest
          rcases ih _ hhalf hresult hmoderate hmeets.even (by omega) with ⟨hloop, hpower⟩
          rw [powerLoop_of_even heven]
          exact ⟨.even hmany heven hfits hloop, hpower⟩
        · have hone : result.weight + square.weight ≤ 2 ^ 60 := by omega
          have hcount := Nat.two_mul_div_two_add_one_of_odd hodd
          rw [← hcount, Nat.mul_add, Nat.mul_one] at h
          rcases ih _ hhalf (isModerate_roundedProduct hmeets hone) hmoderate hmeets.odd
            (by omega) with ⟨hloop, hpower⟩
          rw [powerLoop_of_odd hodd]
          exact ⟨.odd hmany hodd (productFits_of_weight hresult hsquare hmeets hone) hfits hloop,
            hpower⟩

theorem isModerate_one : (ofInt 1).IsModerate := by
  rw [IsModerate]
  decide +kernel

/-- Behind the limit on powers all products on the way to a power can be formed and
rounded, and its reciprocal as well. -/
theorem loopFits_of_limit (hdigits : d.digitCount ≤ 2 ^ 59)
    (hlimit : (d.leadingExponent.natAbs + 1) * exponent ≤ 2 ^ 40) :
    LoopFits (ofInt 1) d exponent ∧ canDivide (ofInt 1) (power d exponent) = true := by
  suffices hloop : LoopFits (ofInt 1) d exponent ∧ (power d exponent).IsModerate from
    ⟨hloop.left, canDivide_of_isModerate isModerate_one hloop.right⟩
  by_cases hexponent : exponent = 0
  · rw [hexponent, power_zero]
    exact ⟨.done _ _, isModerate_one⟩
  · have hlead := (Nat.le_mul_of_pos_right _ (Nat.pos_of_ne_zero hexponent)).trans hlimit
    have hmoderate : d.IsModerate := by
      rw [leadingExponent] at hlead
      rw [IsModerate]
      omega
    have hone : (ofInt 1).weight = 101 := by decide +kernel
    have hweight : d.weight * exponent ≤ 101 * ((d.leadingExponent.natAbs + 1) * exponent) := by
      rw [← Nat.mul_assoc]
      apply Nat.mul_le_mul_right
      rw [weight]
      omega
    apply loopFits_of_weight isModerate_one hmoderate (.inr rfl)
    omega

end Numbers

end Decimal
end Reckon
