import Reckon.Decimal.Range
import Reckon.Proofs.Decimal.Cohort

/-!
# Operations within the range of scales

An operation that does not trap gives what it gives for scales of any size. Whether it
traps is told by the places of first digits, apart from products and quotients, whose
scales are those of their operands taken together.
-/

namespace Reckon
namespace Decimal

variable {a b d : Decimal} {order : Ordering}

theorem isScale_iff {scale : Int} :
    isScale scale = true <-> -2 ^ 63 ≤ scale ∧ scale < 2 ^ 63 := by
  rw [isScale, Bool.and_eq_true, decide_eq_true_iff, decide_eq_true_iff]
  omega

/-!
## Results
-/

theorem sum?_eq_some_iff : a.sum? b = some d <-> canAdd a b = true ∧ a.sum b = d := by
  rw [sum?]
  split
  · next h => simp [h]
  · next h => simp [h]

theorem sum?_eq_none_iff : a.sum? b = none <-> canAdd a b = false := by
  rw [sum?]
  split
  · next h => simp [h]
  · next h => simp [h]

theorem mul?_eq_some_iff : a.mul? b = some d <-> canMultiply a b = true ∧ a * b = d := by
  rw [mul?]
  split
  · next h => simp [h]
  · next h => simp [h]

theorem compare?_eq_some_iff :
    a.compare? b = some order <-> canCompare a b = true ∧ a.compare b = order := by
  rw [compare?]
  split
  · next h => simp [h]
  · next h => simp [h]

theorem sum?_of_canAdd (h : canAdd a b = true) : a.sum? b = some (a.sum b) :=
  if_pos h

theorem mul?_of_canMultiply (h : canMultiply a b = true) : a.mul? b = some (a * b) :=
  if_pos h

theorem compare?_of_canCompare (h : canCompare a b = true) :
    a.compare? b = some (a.compare b) :=
  if_pos h

/-!
## Places
-/

theorem leadingExponent_of_eq_zero (h : d.coefficient = 0) : d.leadingExponent = -d.scale := by
  rw [leadingExponent, digitCount, h, Int.natAbs_zero, Numeral.digitCount_of_lt (by decide)]
  omega

theorem canRound_eq (digits : Nat) (d : Decimal) :
    canRound digits d = isScale (d.toPrecision digits).scale := by
  rw [canRound, scale_toPrecision, leadingExponent]
  congr 1
  omega

theorem canRound_iff {digits : Nat} :
    canRound digits d = true <->
      digits - 2 ^ 63 ≤ d.leadingExponent ∧ d.leadingExponent < digits + 2 ^ 63 := by
  rw [canRound_eq, scale_toPrecision, isScale_iff]
  omega

theorem canAdd_of_hasPlace (ha : a.hasPlace = true) (hb : b.hasPlace = true) :
    canAdd a b = true := by
  rw [canAdd, ha, hb]
  simp

theorem canCompare_of_hasPlace (ha : a.hasPlace = true) (hb : b.hasPlace = true) :
    canCompare a b = true := by
  rw [canCompare, ha, hb]
  simp

theorem canCompare_of_canAdd (h : canAdd a b = true) : canCompare a b = true := by
  by_cases hzero : a.isZero = true
  · rw [canCompare, hzero, Bool.or_true, Bool.true_or]
  · by_cases hzero' : b.isZero = true
    · have hsign : a.coefficient.sign ≠ b.coefficient.sign := by
        rw [beq_iff_eq.mp hzero', Int.sign_zero, ne_eq, Int.sign_eq_zero_iff_zero]
        exact mt beq_iff_eq.mpr hzero
      rw [canCompare, bne_iff_ne.mpr hsign, Bool.true_or, Bool.true_or]
    · rw [canAdd, Bool.eq_false_iff.mpr hzero, Bool.eq_false_iff.mpr hzero', Bool.false_or,
        Bool.false_or, Bool.and_eq_true] at h
      exact canCompare_of_hasPlace h.left h.right

/-!
## Decimals for one number
-/

theorem hasPlace_congr (h : a.toRat = b.toRat) (hne : a.coefficient ≠ 0) :
    a.hasPlace = b.hasPlace := by
  rw [hasPlace, hasPlace, leadingExponent_congr h hne]

theorem canShow_congr (h : a.toRat = b.toRat) (hne : a.coefficient ≠ 0) :
    a.canShow = b.canShow := by
  have hshown : a.shown = b.shown := toPrecision_congr h hne shownDigits
  rw [canShow, canShow, canRound_eq, canRound_eq, toPrecision_congr h hne, hshown]

/-!
## Negatives
-/

theorem coefficient_neg (d : Decimal) : (-d).coefficient = -d.coefficient :=
  rfl

theorem scale_neg (d : Decimal) : (-d).scale = d.scale :=
  rfl

theorem digitCount_neg (d : Decimal) : (-d).digitCount = d.digitCount := by
  rw [digitCount, coefficient_neg, Int.natAbs_neg, digitCount]

theorem leadingExponent_neg (d : Decimal) : (-d).leadingExponent = d.leadingExponent := by
  rw [leadingExponent, digitCount_neg, scale_neg, leadingExponent]

theorem isZero_neg (d : Decimal) : (-d).isZero = d.isZero := by
  rw [isZero, isZero, coefficient_neg, Bool.eq_iff_iff, beq_iff_eq, beq_iff_eq]
  exact Int.neg_eq_zero

theorem hasPlace_neg (d : Decimal) : (-d).hasPlace = d.hasPlace := by
  rw [hasPlace, hasPlace, leadingExponent_neg]

theorem canRound_neg (digits : Nat) (d : Decimal) : canRound digits (-d) = canRound digits d := by
  rw [canRound, canRound, scale_neg, digitCount_neg]

theorem canAdd_neg (a b : Decimal) : canAdd a (-b) = canAdd a b := by
  rw [canAdd, canAdd, isZero_neg, hasPlace_neg]

theorem canAdd_comm (a b : Decimal) : canAdd a b = canAdd b a := by
  rw [canAdd, canAdd, Bool.or_comm a.isZero, Bool.and_comm a.hasPlace]

end Decimal
end Reckon
