import Reckon.Proofs.Decimal.Mirror
import Reckon.Proofs.Value.Representation

/-!
# Results for decimals and their negatives

Subtracting the other way round, dividing the negative and raising the negative to an odd
power give the negative result, and a negative number is shown as the positive one
behind a sign, wherever nothing is rounded up. Raising the negative to an even power
always gives the same result, and raising it to an odd power at least the other sign.
-/

namespace Reckon
namespace Value

/-- Results that are the same error, or decimals for numbers that are related. -/
inductive NumberResults (related : ℚ -> ℚ -> Prop) :
    Except EvalError Value -> Except EvalError Value -> Prop where
  | error (e : EvalError) : NumberResults related (.error e) (.error e)
  | decimal {a b : Decimal} : related a.toRat b.toRat ->
      NumberResults related (.ok (.decimal a)) (.ok (.decimal b))

def Opposite (x y : ℚ) : Prop :=
  x = -y

def OppositeSigns (x y : ℚ) : Prop :=
  SignType.sign x = -SignType.sign y

section Results

variable {related : ℚ -> ℚ -> Prop} {a b : Decimal} {r : Value} {exponent : Int}

theorem numberResults_decimal_iff :
    NumberResults related (.ok (.decimal a)) (.ok (.decimal b)) <-> related a.toRat b.toRat := by
  constructor
  · intro h
    cases h with
    | decimal hrelated => exact hrelated
  · exact .decimal

/-!
## Differences and quotients
-/

theorem apply_sub_decimal (a b : Decimal) :
    (Value.decimal a).apply .sub (.decimal b) = decimalResult (a.sum? (-b)) :=
  rfl

theorem apply_div_decimal (a b : Decimal) :
    (Value.decimal a).apply .div (.decimal b) = decimalQuotient a b :=
  rfl

theorem decimalQuotient_of_ne_zero (hb : b.coefficient ≠ 0) (h : a.canDivide b = true) :
    decimalQuotient a b =
      .ok (.decimal (Decimal.toPrecision Decimal.precision (Decimal.quotient a b))) := by
  rw [decimalQuotient_of_canDivide h, Decimal.div?, Decimal.isZero, beq_eq_false_iff_ne.mpr hb]
  rfl

theorem opposite_sub_iff :
    NumberResults Opposite ((Value.decimal a).apply .sub (.decimal b))
        ((Value.decimal b).apply .sub (.decimal a)) <->
      ¬ (a.canAdd b = true ∧ Decimal.FarApart a b ∧
        Decimal.RoundsUp Decimal.precision (Decimal.larger a b).toRat) := by
  rw [apply_sub_decimal, apply_sub_decimal, Decimal.sum?, Decimal.sum?, Decimal.canAdd_neg,
    Decimal.canAdd_neg, Decimal.canAdd_comm b a]
  cases a.canAdd b with
  | false => exact iff_of_true (.error .trap) fun h => Bool.false_ne_true h.left
  | true =>
      rw [if_pos rfl, if_pos rfl, decimalResult, decimalResult, numberResults_decimal_iff,
        and_iff_right rfl]
      exact Decimal.toRat_sum_neg_comm_iff

theorem opposite_div_iff (hb : b.coefficient ≠ 0) :
    NumberResults Opposite ((Value.decimal (-a)).apply .div (.decimal b))
        ((Value.decimal a).apply .div (.decimal b)) <->
      ¬ (a.canDivide b = true ∧
        Decimal.RoundsUp Decimal.precision (Decimal.quotient a b).toRat) := by
  have hside := Decimal.canDivide_neg_left a b
  rw [apply_div_decimal, apply_div_decimal]
  by_cases hdivide : a.canDivide b = true
  · rw [decimalQuotient_of_ne_zero hb hdivide,
      decimalQuotient_of_ne_zero hb (hside.trans hdivide), numberResults_decimal_iff,
      and_iff_right hdivide]
    exact Decimal.toRat_toPrecision_quotient_neg_iff
  · rw [decimalQuotient_of_not_canDivide hdivide,
      decimalQuotient_of_not_canDivide (hside ▸ hdivide)]
    exact iff_of_true (.error .trap) fun h => hdivide h.left

theorem eq_div_neg (hb : b.coefficient ≠ 0)
    (h : b.isUnit = true ∨ (-b).isUnit = true ->
      (b.scale = 0 ∨ Decimal.FitsIn Decimal.precision a.toRat) ∧
        a.canDivide (-b) = a.canDivide b) :
    NumberResults Eq ((Value.decimal a).apply .div (.decimal (-b)))
      ((Value.decimal (-a)).apply .div (.decimal b)) := by
  have hside : a.canDivide (-b) = a.canDivide b := by
    cases hunit : b.isUnit with
    | true => exact (h (.inl hunit)).right
    | false =>
        cases hminus : (-b).isUnit with
        | true => exact (h (.inr hminus)).right
        | false => exact Decimal.canDivide_neg_right hunit hminus
  rw [apply_div_decimal, apply_div_decimal]
  by_cases hdivide : a.canDivide b = true
  · rw [decimalQuotient_of_ne_zero (neg_ne_zero.mpr hb) (hside.trans hdivide),
      decimalQuotient_of_ne_zero hb ((Decimal.canDivide_neg_left a b).trans hdivide),
      numberResults_decimal_iff, Decimal.toRat_toPrecision, Decimal.toRat_toPrecision,
      Decimal.toRat_quotient_neg_right fun hunit => (h hunit).left]
  · rw [decimalQuotient_of_not_canDivide (hside ▸ hdivide),
      decimalQuotient_of_not_canDivide (Decimal.canDivide_neg_left a b ▸ hdivide)]
    exact .error .trap

/-!
## Powers
-/

theorem wholeExponent_decimal_left (op : BinaryOp) (a b : Decimal) (r : Value) :
    wholeExponent op (.decimal a) r = wholeExponent op (.decimal b) r := by
  cases r <;> rfl

theorem apply_pow_error_or_eq (h : r.number? = some (exponent : ℚ)) :
    (exists e, forall a : Decimal, (Value.decimal a).apply .pow r = .error e) ∨
      forall a : Decimal, (Value.decimal a).apply .pow r = decimalPower .pow a exponent := by
  have happly : forall a : Decimal, (Value.decimal a).apply .pow r = pow .pow (.decimal a) r :=
    fun _ => rfl
  simp only [happly, pow]
  cases hread : wholeExponent .pow (.decimal (Decimal.ofInt 1)) r with
  | error e =>
      left
      refine ⟨e, fun a => ?_⟩
      rw [wholeExponent_decimal_left .pow a, hread]
  | ok n =>
      have hnumber := (number?_of_wholeExponent hread).symm.trans h
      rw [Option.some_inj, Int.cast_inj] at hnumber
      by_cases hlimit : exponentLimit ≤ exponent.natAbs
      · left
        refine ⟨.invalidOperand .pow (.exponentOutOfRange exponent), fun a => ?_⟩
        rw [wholeExponent_decimal_left .pow a, hread, hnumber]
        dsimp only
        rw [if_pos hlimit]
      · right
        intro a
        rw [wholeExponent_decimal_left .pow a, hread, hnumber]
        dsimp only
        rw [if_neg hlimit]

theorem foreseenExponent_neg (a : Decimal) (exponent : Int) :
    foreseenExponent (-a) exponent = foreseenExponent a exponent := by
  rw [foreseenExponent, foreseenExponent, Decimal.leadingExponent_neg]

theorem decimalPower_neg_of_even (h : Even exponent) (op : BinaryOp) (a : Decimal) :
    decimalPower op (-a) exponent = decimalPower op a exponent := by
  have hpower := Decimal.power_neg_of_even (Int.natAbs_even.mpr h) a
  rw [decimalPower, decimalPower, Decimal.hasPlace_neg, Decimal.leadingExponent_neg, hpower]

theorem numberResults_decimalPower_neg (op : BinaryOp)
    (hpower : related (Decimal.power (-a) exponent.natAbs).toRat
      (Decimal.power a exponent.natAbs).toRat)
    (hinverse : (Decimal.power (-a) exponent.natAbs).coefficient ≠ 0 ->
      (Decimal.power a exponent.natAbs).coefficient ≠ 0 ->
        related
          (Decimal.toPrecision Decimal.precision
            (Decimal.quotient (.ofInt 1) (Decimal.power (-a) exponent.natAbs))).toRat
          (Decimal.toPrecision Decimal.precision
            (Decimal.quotient (.ofInt 1) (Decimal.power a exponent.natAbs))).toRat) :
    NumberResults related (decimalPower op (-a) exponent) (decimalPower op a exponent) := by
  have hzero : (Decimal.power (-a) exponent.natAbs).coefficient = 0 <->
      (Decimal.power a exponent.natAbs).coefficient = 0 := by
    rw [Decimal.coefficient_power_eq_zero_iff, Decimal.coefficient_power_eq_zero_iff]
    exact and_congr_right fun _ => neg_eq_zero
  by_cases hplace : a.hasPlace = true
  · rw [decimalPower_of_hasPlace hplace, decimalPower_of_hasPlace (a.hasPlace_neg.trans hplace),
      foreseenExponent_neg]
    split
    · exact .error _
    · split
      · rw [Decimal.inverse?, Decimal.inverse?, Decimal.div?, Decimal.div?, Decimal.isZero,
          Decimal.isZero]
        by_cases hpowerZero : (Decimal.power a exponent.natAbs).coefficient = 0
        · rw [hpowerZero, hzero.mpr hpowerZero]
          exact .error _
        · have hne := mt hzero.mp hpowerZero
          rw [beq_eq_false_iff_ne.mpr hpowerZero, beq_eq_false_iff_ne.mpr hne]
          exact .decimal (hinverse hne hpowerZero)
      · exact .decimal hpower
  · rw [decimalPower_of_not_hasPlace hplace,
      decimalPower_of_not_hasPlace (a.hasPlace_neg ▸ hplace)]
    exact .error _

theorem oppositeSigns_decimalPower_neg (hodd : Odd exponent) (op : BinaryOp) (a : Decimal) :
    NumberResults OppositeSigns (decimalPower op (-a) exponent) (decimalPower op a exponent) := by
  have hpower := Decimal.sign_power_neg (Int.natAbs_odd.mpr hodd) a
  apply numberResults_decimalPower_neg
  · exact hpower
  · intro hne hne'
    rw [OppositeSigns, Decimal.sign_toPrecision_quotient hne,
      Decimal.sign_toPrecision_quotient hne', sign_mul, sign_mul, hpower, mul_neg]

theorem opposite_decimalPower_neg (hodd : Odd exponent)
    (h : Decimal.RoundsDown (.ofInt 1) a exponent.natAbs) (op : BinaryOp) :
    NumberResults Opposite (decimalPower op (-a) exponent) (decimalPower op a exponent) := by
  have hpower := h.toRat_power_neg (Int.natAbs_odd.mpr hodd)
  apply numberResults_decimalPower_neg
  · exact hpower
  · intro hne hne'
    rw [Opposite, Decimal.toRat_toPrecision_quotient_one hne,
      Decimal.toRat_toPrecision_quotient_one hne', hpower, one_div_neg_eq_neg_one_div,
      Decimal.nearest_neg]

theorem apply_pow_neg_of_even (h : r.number? = some (exponent : ℚ)) (heven : Even exponent) :
    (Value.decimal (-a)).apply .pow r = (Value.decimal a).apply .pow r := by
  rcases apply_pow_error_or_eq h with ⟨e, herror⟩ | hpower
  · rw [herror, herror]
  · rw [hpower, hpower, decimalPower_neg_of_even heven]

theorem numberResults_apply_pow_neg (h : r.number? = some (exponent : ℚ))
    (hrelated : NumberResults related (decimalPower .pow (-a) exponent)
      (decimalPower .pow a exponent)) :
    NumberResults related ((Value.decimal (-a)).apply .pow r)
      ((Value.decimal a).apply .pow r) := by
  rcases apply_pow_error_or_eq h with ⟨e, herror⟩ | hpower
  · rw [herror, herror]
    exact .error e
  · rw [hpower, hpower]
    exact hrelated

/-!
## Texts
-/

theorem text_neg_iff (h : 0 < a.coefficient) :
    (Value.decimal (-a)).text = "-" ++ (Value.decimal a).text <->
      ¬ Decimal.RoundsUp Decimal.shownDigits a.toRat := by
  have hsign : "-".toList = ['-'] := rfl
  rw [← Decimal.chars_neg_iff h, ← String.toList_inj, String.toList_append, hsign, text, text,
    String.toList_ofList, String.toList_ofList]
  rfl

end Results

/-!
## All of them
-/

/-- What becomes of signs: differences and quotients of decimals and the texts that are
shown are mirrored just where nothing is rounded up, or both sides trap. A negative divisor
is as good as a negative numerator, apart from long numerators over ones and minus ones that
are written with places, and from scales that trap over the one but not over the other. Even
powers do not see the sign, odd powers keep it, and they are mirrored where no product is
rounded up. -/
theorem mirrored_results (a b : Decimal) :
    (NumberResults Opposite ((Value.decimal a).apply .sub (.decimal b))
        ((Value.decimal b).apply .sub (.decimal a)) <->
      ¬ (a.canAdd b = true ∧ Decimal.FarApart a b ∧
        Decimal.RoundsUp Decimal.precision (Decimal.larger a b).toRat)) ∧
      (b.coefficient ≠ 0 ->
        (NumberResults Opposite ((Value.decimal (-a)).apply .div (.decimal b))
            ((Value.decimal a).apply .div (.decimal b)) <->
          ¬ (a.canDivide b = true ∧
            Decimal.RoundsUp Decimal.precision (Decimal.quotient a b).toRat)) ∧
        ((b.isUnit = true ∨ (-b).isUnit = true ->
            (b.scale = 0 ∨ Decimal.FitsIn Decimal.precision a.toRat) ∧
              a.canDivide (-b) = a.canDivide b) ->
          NumberResults Eq ((Value.decimal a).apply .div (.decimal (-b)))
            ((Value.decimal (-a)).apply .div (.decimal b)))) ∧
      (forall (r : Value) (n : Int), r.number? = some (n : ℚ) ->
        (Even n -> (Value.decimal (-a)).apply .pow r = (Value.decimal a).apply .pow r) ∧
        (Odd n -> NumberResults OppositeSigns ((Value.decimal (-a)).apply .pow r)
          ((Value.decimal a).apply .pow r)) ∧
        (Odd n -> Decimal.RoundsDown (.ofInt 1) a n.natAbs ->
          NumberResults Opposite ((Value.decimal (-a)).apply .pow r)
            ((Value.decimal a).apply .pow r))) ∧
      (0 < a.coefficient ->
        ((Value.decimal (-a)).text = "-" ++ (Value.decimal a).text <->
          ¬ Decimal.RoundsUp Decimal.shownDigits a.toRat)) := by
  refine ⟨opposite_sub_iff, ?_, ?_, text_neg_iff⟩
  · intro hb
    exact ⟨opposite_div_iff hb, eq_div_neg hb⟩
  · intro r n hr
    refine ⟨apply_pow_neg_of_even hr, ?_, ?_⟩
    · intro hodd
      exact numberResults_apply_pow_neg hr (oppositeSigns_decimalPower_neg hodd .pow a)
    · intro hodd hdown
      exact numberResults_apply_pow_neg hr (opposite_decimalPower_neg hodd hdown .pow)

/-- Three, which is divided by minus one with a place, raised to its negative and shown. -/
theorem mirrored_results_of_three :
    let a : Decimal := ⟨3, 0⟩
    let b : Decimal := ⟨-10, 1⟩
    let r : Value := .integer (-3)
    NumberResults Eq ((Value.decimal a).apply .div (.decimal (-b)))
        ((Value.decimal (-a)).apply .div (.decimal b)) ∧
      NumberResults Opposite ((Value.decimal (-a)).apply .pow r)
        ((Value.decimal a).apply .pow r) ∧
      (Value.decimal (-a)).text = "-" ++ (Value.decimal a).text := by
  intro a b r
  rcases mirrored_results a b with ⟨-, hdiv, hpow, htext⟩
  have hfits : Decimal.FitsIn Decimal.precision a.toRat := ⟨a, by decide +kernel, rfl⟩
  have hshort : Decimal.FitsIn Decimal.shownDigits a.toRat := ⟨a, by decide +kernel, rfl⟩
  have hcube : Decimal.RoundsDown (.ofInt 1) a (-3 : Int).natAbs := by
    have hfirst : Decimal.roundedProduct (.ofInt 1) a = ⟨3 * 10 ^ 99, 99⟩ := by decide +kernel
    have hsquare : Decimal.roundedProduct a a = ⟨9 * 10 ^ 99, 99⟩ := by decide +kernel
    refine .odd (by decide) (Decimal.not_roundsUp_of_fitsIn ?_)
      (.odd (by decide) (Decimal.not_roundsUp_of_fitsIn ?_) (.done _ _))
    · exact ⟨a, by decide +kernel, by norm_num [a, Decimal.toRat, Decimal.ofInt]⟩
    · rw [hfirst, hsquare]
      exact ⟨⟨27, 0⟩, by decide +kernel, by norm_num [Decimal.toRat]⟩
  refine ⟨(hdiv (by decide)).right fun _ => ⟨.inr hfits, by decide +kernel⟩, ?_, ?_⟩
  · exact (hpow r (-3) (by norm_num [r, number?])).right.right (by decide) hcube
  · exact (htext (by decide)).mpr (Decimal.not_roundsUp_of_fitsIn hshort)

/-- A number of a hundred and one digits and one of seventeen, which are rounded up, while
their negatives are cut. -/
theorem not_mirrored_of_long :
    let long : Decimal := ⟨10 ^ 100 + 9, 0⟩
    let hundredth : Decimal := ⟨1, 2⟩
    let one : Decimal := ⟨10, 1⟩
    let short : Decimal := ⟨10 ^ 16 + 9, 0⟩
    ¬ NumberResults Opposite ((Value.decimal long).apply .sub (.decimal hundredth))
        ((Value.decimal hundredth).apply .sub (.decimal long)) ∧
      ¬ NumberResults Opposite ((Value.decimal (-long)).apply .div (.decimal one))
        ((Value.decimal long).apply .div (.decimal one)) ∧
      ¬ NumberResults Eq ((Value.decimal long).apply .div (.decimal (-one)))
        ((Value.decimal (-long)).apply .div (.decimal one)) ∧
      ¬ NumberResults Opposite ((Value.decimal (-long)).apply .pow (.integer 1))
        ((Value.decimal long).apply .pow (.integer 1)) ∧
      (Value.decimal (-short)).text ≠ "-" ++ (Value.decimal short).text := by
  intro long hundredth one short
  have hsub : (Value.decimal long).apply .sub (.decimal hundredth) =
      .ok (.decimal ⟨10 ^ 99 + 1, -1⟩) := by decide +kernel
  have hsubSwapped : (Value.decimal hundredth).apply .sub (.decimal long) =
      .ok (.decimal ⟨-10 ^ 99, -1⟩) := by decide +kernel
  have hdiv : (Value.decimal long).apply .div (.decimal one) =
      .ok (.decimal ⟨10 ^ 99 + 1, -1⟩) := by decide +kernel
  have hdivNumerator : (Value.decimal (-long)).apply .div (.decimal one) =
      .ok (.decimal ⟨-10 ^ 99, -1⟩) := by decide +kernel
  have hdivDivisor : (Value.decimal long).apply .div (.decimal (-one)) =
      .ok (.decimal ⟨-(10 ^ 99 + 1), -1⟩) := by decide +kernel
  have hpow : (Value.decimal long).apply .pow (.integer 1) =
      .ok (.decimal ⟨10 ^ 99 + 1, -1⟩) := by decide +kernel
  have hpowNegative : (Value.decimal (-long)).apply .pow (.integer 1) =
      .ok (.decimal ⟨-10 ^ 99, -1⟩) := by decide +kernel
  rw [hsub, hsubSwapped, hdiv, hdivNumerator, hdivDivisor, hpow, hpowNegative]
  simp only [numberResults_decimal_iff, Opposite, Decimal.toRat]
  refine ⟨by norm_num, by norm_num, by norm_num, by norm_num, by decide +kernel⟩

end Value
end Reckon
