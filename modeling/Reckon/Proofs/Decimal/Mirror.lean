import Reckon.Proofs.Decimal.Accuracy
import Reckon.Proofs.Decimal.Gaps
import Reckon.Proofs.Decimal.Powers

/-!
# Numbers and their negatives

Only positive numbers are rounded up, and negative ones are cut. So the negatives of
decimals come to the negative of what the decimals come to wherever nothing is rounded
up. Even powers do so always, as they are rounded only after both signs have gone. A
divisor of minus one is a number to divide by, while one is not, which tells the two apart
where the numerator is too long to be kept.
-/

namespace Reckon
namespace Decimal

open Numeral (tenPow)

/-!
## Negatives
-/

section Negatives

variable {digits : Nat} {a b d : Decimal} {p q : ℚ}

theorem neg_of_eq_zero (h : d.coefficient = 0) : -d = d := by
  show (⟨-d.coefficient, d.scale⟩ : Decimal) = d
  rw [h, Int.neg_zero, ← h]

theorem neg_neg_eq (d : Decimal) : - -d = d := by
  show (⟨- -d.coefficient, d.scale⟩ : Decimal) = d
  rw [Int.neg_neg]

theorem eq_of_scale_eq (hscale : a.scale = b.scale) (h : a.toRat = b.toRat) : a = b := by
  have hcoefficient : a.coefficient = b.coefficient := by
    rw [toRat, toRat, hscale] at h
    exact Int.cast_injective (mul_right_cancel₀ (zpow_ten_pos _).ne' h)
  cases a
  cases b
  cases hscale
  cases hcoefficient
  rfl

theorem roundsUp_congr (h : |p| = |q|) : RoundsUp digits p <-> RoundsUp digits q := by
  rw [RoundsUp, RoundsUp, lastPlace, lastPlace, h]

theorem toRat_toPrecision_neg_iff :
    ((-d).toPrecision digits).toRat = -(d.toPrecision digits).toRat <->
      ¬ RoundsUp digits d.toRat := by
  rw [toRat_toPrecision, toRat_toPrecision, toRat_neg, rounded_neg_eq_iff]

theorem not_roundsUp_of_fitsIn (h : FitsIn digits q) : ¬ RoundsUp digits q := by
  rcases h with ⟨d, hcount, rfl⟩
  rw [← toRat_toPrecision_neg_iff, toPrecision_of_le hcount, toRat_addZeros,
    toPrecision_of_le ((digitCount_neg d).trans_le hcount), toRat_addZeros, toRat_neg]

theorem toPrecision_neg (h : ¬ RoundsUp digits d.toRat) :
    (-d).toPrecision digits = -(d.toPrecision digits) := by
  apply eq_of_scale_eq
  · show ((-d).toPrecision digits).scale = (d.toPrecision digits).scale
    rw [scale_toPrecision, scale_toPrecision, leadingExponent_neg]
  · rw [toRat_toPrecision_neg_iff.mpr h, toRat_neg]

end Negatives

/-!
## Differences
-/

section Differences

variable {a b : Decimal}

theorem farApart_neg_right : FarApart a (-b) <-> FarApart a b := by
  rw [FarApart, FarApart, leadingExponent_neg]
  exact and_congr_right fun _ => and_congr_left fun _ => not_congr neg_eq_zero

theorem FarApart.larger_neg_right (h : FarApart a b) : larger b (-a) = -larger a (-b) := by
  have hgap := h.right.right
  unfold larger
  rw [leadingExponent_neg, leadingExponent_neg]
  rcases lt_trichotomy a.leadingExponent b.leadingExponent with hlt | heq | hgt
  · rw [if_pos hlt, if_neg hlt.not_gt, neg_neg_eq]
  · rw [heq, sub_self] at hgap
    exact absurd hgap (Nat.not_lt_zero _)
  · rw [if_neg hgt.not_gt, if_pos hgt]

theorem abs_toRat_larger_neg_right (a b : Decimal) :
    |(larger a (-b)).toRat| = |(larger a b).toRat| := by
  unfold larger
  rw [leadingExponent_neg]
  split
  · rfl
  · rw [toRat_neg, abs_neg]

/-- Differences taken either way round are the negatives of each other unless the larger
operand is rounded up. -/
theorem toRat_sum_neg_comm_iff :
    (a.sum (-b)).toRat = -(b.sum (-a)).toRat <->
      ¬ (FarApart a b ∧ RoundsUp precision (larger a b).toRat) := by
  by_cases hfar : FarApart a b
  · rw [sum_of_farApart (farApart_neg_right.mpr hfar),
      sum_of_farApart (farApart_neg_right.mpr hfar.symm), hfar.larger_neg_right, and_iff_right hfar,
      ← roundsUp_congr (abs_toRat_larger_neg_right a b), ← toRat_toPrecision_neg_iff,
      ← neg_eq_iff_eq_neg, eq_comm]
  · rw [toRat_sum_of_not_farApart (mt farApart_neg_right.mp hfar),
      toRat_sum_of_not_farApart (mt (fun h => (farApart_neg_right.mp h).symm) hfar), toRat_neg,
      toRat_neg]
    refine iff_of_true ?_ fun h => hfar h.left
    ring

end Differences

/-!
## Quotients
-/

section Quotients

variable {a b : Decimal}

theorem quotient_neg_left (a b : Decimal) : quotient (-a) b = -quotient a b := by
  by_cases ha : a.coefficient = 0
  · rw [neg_of_eq_zero ha, quotient_of_eq_zero ha, neg_of_eq_zero ha]
  · cases hunit : b.isUnit with
    | true => rw [quotient_of_isUnit hunit, quotient_of_isUnit hunit]
    | false =>
        have hna : (-a).coefficient ≠ 0 := neg_ne_zero.mpr ha
        rw [quotient_eq ha hunit, quotient_eq hna hunit]
        dsimp only
        rw [coefficient_neg, scale_neg, Int.natAbs_neg, Int.sign_neg, Int.neg_mul, Int.neg_mul]
        rfl

theorem quotient_neg_right (hunit : b.isUnit = false) (hminus : (-b).isUnit = false) :
    quotient a (-b) = quotient (-a) b := by
  rw [quotient_neg_left]
  by_cases ha : a.coefficient = 0
  · rw [quotient_of_eq_zero ha, quotient_of_eq_zero ha, neg_of_eq_zero ha]
  · rw [quotient_eq ha hunit, quotient_eq ha hminus]
    dsimp only
    rw [coefficient_neg, scale_neg, Int.natAbs_neg, Int.sign_neg, Int.mul_neg, Int.neg_mul]
    rfl

theorem canDivide_neg_left (a b : Decimal) : canDivide (-a) b = canDivide a b := by
  rw [canDivide, canDivide, quotient_neg_left, isZero_neg, canRound_neg, scale_neg, scale_neg]

theorem canDivide_neg_right (hunit : b.isUnit = false) (hminus : (-b).isUnit = false) :
    canDivide a (-b) = canDivide a b := by
  rw [canDivide, canDivide, quotient_neg_right hunit hminus, quotient_neg_left, hunit, hminus,
    isZero_neg, canRound_neg, scale_neg, scale_neg]

theorem toRat_quotient_of_natAbs_eq_one (h : b.coefficient.natAbs = 1) :
    (quotient a b).toRat = a.toRat / b.toRat := by
  by_cases ha : a.coefficient = 0
  · rw [quotient_of_eq_zero ha, toRat_eq_zero_iff.mpr ha, zero_div]
  · cases hunit : b.isUnit with
    | true => rw [quotient_of_isUnit hunit, toRat_of_isUnit hunit, div_one]
    | false =>
        have habs := abs_div_toRat a b (places a.coefficient.natAbs b.coefficient.natAbs)
        rw [h, Nat.cast_one, div_one] at habs
        rw [toRat_quotient ha hunit, h, roundedQuotient_one, mul_assoc, ← habs, sign_mul_abs]

theorem fitsIn_neg {digits : Nat} {q : ℚ} (h : FitsIn digits q) : FitsIn digits (-q) := by
  rcases h with ⟨d, hcount, rfl⟩
  exact ⟨-d, (digitCount_neg d).trans_le hcount, toRat_neg d⟩

theorem toRat_quotient_neg_of_isUnit (hunit : b.isUnit = true)
    (h : b.scale = 0 ∨ FitsIn precision a.toRat) : (quotient a (-b)).toRat = -a.toRat := by
  have hone := toRat_of_isUnit hunit
  have hdivided : a.toRat / (-b).toRat = -a.toRat := by
    rw [toRat_neg, hone, div_neg, div_one]
  rw [← hdivided]
  rcases h with hscale | hfits
  · apply toRat_quotient_of_natAbs_eq_one
    rw [isUnit, hscale, Bool.and_eq_true, beq_iff_eq] at hunit
    rw [coefficient_neg, hunit.right]
    rfl
  · have hb : (-b).coefficient ≠ 0 := by
      rw [ne_eq, ← toRat_eq_zero_iff, toRat_neg, hone]
      exact neg_ne_zero.mpr one_ne_zero
    exact toRat_quotient_of_fitsIn hb (hdivided ▸ fitsIn_neg hfits)

theorem toRat_quotient_neg_right
    (h : b.isUnit = true ∨ (-b).isUnit = true -> b.scale = 0 ∨ FitsIn precision a.toRat) :
    (quotient a (-b)).toRat = (quotient (-a) b).toRat := by
  cases hunit : b.isUnit with
  | true =>
      rw [toRat_quotient_neg_of_isUnit hunit (h (.inl hunit)), quotient_of_isUnit hunit, toRat_neg]
  | false =>
      cases hminus : (-b).isUnit with
      | true =>
          have hexact : (-b).scale = 0 ∨ FitsIn precision (-a).toRat :=
            (h (.inr hminus)).imp_right fun hfits => toRat_neg a ▸ fitsIn_neg hfits
          have hdivided := toRat_quotient_neg_of_isUnit hminus hexact
          rw [neg_neg_eq, toRat_neg, neg_neg] at hdivided
          rw [hdivided, quotient_of_isUnit hminus]
      | false => rw [quotient_neg_right hunit hminus]

/-- Quotients of a number and its negative are the negatives of each other just if the
quotient is not rounded up. -/
theorem toRat_toPrecision_quotient_neg_iff :
    (toPrecision precision (quotient (-a) b)).toRat =
        -(toPrecision precision (quotient a b)).toRat <->
      ¬ RoundsUp precision (quotient a b).toRat := by
  rw [quotient_neg_left]
  exact toRat_toPrecision_neg_iff

theorem nearest_neg (digits : Nat) (q : ℚ) : nearest digits (-q) = -nearest digits q := by
  rw [nearest, nearest, abs_neg, Left.sign_neg]
  cases SignType.sign q <;> simp

theorem toRat_toPrecision_quotient_one (hb : b.coefficient ≠ 0) :
    (toPrecision precision (quotient (ofInt 1) b)).toRat = nearest precision (1 / b.toRat) := by
  have hone : (ofInt 1).toRat = 1 := toRat_of_isUnit (by decide)
  rw [toRat_toPrecision_quotient hb, hone]
  right
  split
  · exact Int.one_pos
  · exact Nat.lt_of_lt_of_le (by decide : 1 < tenPow precision)
      (Nat.le_mul_of_pos_right _ (Int.natAbs_pos.mpr hb))

end Quotients

/-!
## Powers
-/

section Powers

variable {a result result' square : Decimal} {exponent : Nat}

/-- Whether none of the products is rounded up that the loop takes into its result. -/
inductive RoundsDown : Decimal -> Decimal -> Nat -> Prop where
  | done (result square : Decimal) : RoundsDown result square 0
  | even {result square : Decimal} {exponent : Nat} : Even exponent ->
      RoundsDown result (roundedProduct square square) (exponent / 2) ->
        RoundsDown result square exponent
  | odd {result square : Decimal} {exponent : Nat} : Odd exponent ->
      ¬ RoundsUp precision (result.toRat * square.toRat) ->
        RoundsDown (roundedProduct result square) (roundedProduct square square) (exponent / 2) ->
          RoundsDown result square exponent

theorem toRat_roundedProduct (a b : Decimal) :
    (roundedProduct a b).toRat = rounded precision (a.toRat * b.toRat) := by
  rw [roundedProduct, toRat_toPrecision, toRat_plainProduct]

theorem roundedProduct_neg_self (h : a.coefficient ≠ 0) :
    roundedProduct (-a) (-a) = roundedProduct a a := by
  apply roundedProduct_eq_of_mul_eq
  · rw [toRat_neg, neg_mul_neg]
  · rw [toRat_neg, neg_mul_neg]
    exact mul_self_ne_zero.mpr (mt toRat_eq_zero_iff.mp h)

theorem power_neg_of_even (h : Even exponent) (a : Decimal) :
    power (-a) exponent = power a exponent := by
  by_cases ha : a.coefficient = 0
  · rw [neg_of_eq_zero ha]
  · rw [power, power, powerLoop_of_even h, powerLoop_of_even h, roundedProduct_neg_self ha]

theorem RoundsDown.toRat_powerLoop (h : RoundsDown result square exponent)
    (hresult : result'.toRat = -result.toRat) :
    (powerLoop result' square exponent).toRat = -(powerLoop result square exponent).toRat := by
  induction h generalizing result' with
  | done result square => rw [powerLoop_zero, powerLoop_zero, hresult]
  | even heven _ ih =>
      rw [powerLoop_of_even heven, powerLoop_of_even heven]
      exact ih hresult
  | odd hodd hdown _ ih =>
      rw [powerLoop_of_odd hodd, powerLoop_of_odd hodd]
      apply ih
      rw [toRat_roundedProduct, toRat_roundedProduct, hresult, neg_mul]
      exact rounded_neg_eq_iff.mpr hdown

theorem RoundsDown.toRat_power_neg (h : RoundsDown (ofInt 1) a exponent) (hodd : Odd exponent) :
    (power (-a) exponent).toRat = -(power a exponent).toRat := by
  by_cases ha : a.coefficient = 0
  · have hzero := (coefficient_power_eq_zero_iff a exponent).mpr ⟨hodd.pos.ne', ha⟩
    rw [neg_of_eq_zero ha, toRat_eq_zero_iff.mpr hzero, neg_zero]
  · cases h with
    | done _ _ => exact absurd hodd (by decide)
    | even heven _ => exact absurd hodd (Nat.not_odd_iff_even.mpr heven)
    | odd _ hdown hrest =>
        rw [power, power, powerLoop_of_odd hodd, powerLoop_of_odd hodd, roundedProduct_neg_self ha]
        apply hrest.toRat_powerLoop
        rw [toRat_roundedProduct, toRat_roundedProduct, toRat_neg, mul_neg]
        exact rounded_neg_eq_iff.mpr hdown

theorem sign_roundedProduct (a b : Decimal) :
    SignType.sign (roundedProduct a b).toRat = SignType.sign a.toRat * SignType.sign b.toRat := by
  rw [roundedProduct, sign_toRat_toPrecision (by decide), toRat_plainProduct, sign_mul]

theorem sign_power (a : Decimal) (exponent : Nat) :
    SignType.sign (power a exponent).toRat = SignType.sign a.toRat ^ exponent := by
  have hone : (ofInt 1).toRat = 1 := toRat_of_isUnit (by decide)
  apply power_graded
    (fun count d => SignType.sign d.toRat = SignType.sign a.toRat ^ count)
    (fun count d => SignType.sign d.toRat = SignType.sign a.toRat ^ count)
  · intro m k b c hb hc
    rw [sign_roundedProduct, hb, hc, pow_add]
  · intro k b hb
    rw [sign_roundedProduct, hb, pow_add]
  · rw [hone, sign_one, pow_zero]
  · rw [pow_one]

theorem sign_power_neg (hodd : Odd exponent) (a : Decimal) :
    SignType.sign (power (-a) exponent).toRat = -SignType.sign (power a exponent).toRat := by
  rw [sign_power, sign_power, toRat_neg, Left.sign_neg, hodd.neg_pow]

end Powers

/-!
## Texts
-/

section Text

variable {a : Decimal}

theorem toRat_shown_neg_of_chars_eq (h : 0 < a.coefficient) (hchars : (-a).chars = '-' :: a.chars) :
    (-a).shown.toRat = -a.shown.toRat := by
  rcases exists_spelledBy a with ⟨s, hs⟩
  rcases exists_spelledBy (-a) with ⟨t, ht⟩
  have hpositive : s.negative = false := by
    rw [← Bool.not_eq_true, hs.negative_iff]
    exact h.not_gt
  have hnegative : t.negative = true := ht.negative_iff.mpr (neg_neg_of_pos h)
  rw [hs.chars_eq, ht.chars_eq, Scientific.chars, Scientific.chars, hpositive, hnegative] at hchars
  rcases Scientific.significand_eq_and_power_eq (List.cons.inj hchars).right with
    ⟨hsignificand, hpower⟩
  rw [← hs.toRat_eq, ← ht.toRat_eq, Scientific.toRat, Scientific.toRat, hpositive, hnegative,
    hsignificand, hpower, Numeral.signed, Numeral.signed]
  simp

/-- The text of a negative number is that of the positive one behind a sign just if that
is not rounded up to the digits that are shown. -/
theorem chars_neg_iff (h : 0 < a.coefficient) :
    (-a).chars = '-' :: a.chars <-> ¬ RoundsUp shownDigits a.toRat := by
  constructor
  · intro hchars
    exact toRat_toPrecision_neg_iff.mp (toRat_shown_neg_of_chars_eq h hchars)
  · intro hdown
    have hshown : (-a).shown = -a.shown := toPrecision_neg hdown
    have hpos := a.shown_pos_iff.mpr h
    have hsign : (-a.shown).isNegative = true := decide_eq_true (neg_neg_of_pos hpos)
    have hplain : a.shown.isNegative = false := decide_eq_false hpos.not_gt
    have hzero : (-a.shown).isZero = a.shown.isZero := by
      rw [isZero, isZero, Bool.eq_iff_iff, beq_iff_eq, beq_iff_eq]
      exact neg_eq_zero
    rw [chars, chars, mantissaDigits, mantissaDigits, shownExponent, shownExponent, hshown, hsign,
      hplain, hzero, leadingExponent_neg, coefficient_neg, Int.natAbs_neg]
    rfl

end Text

end Decimal
end Reckon
