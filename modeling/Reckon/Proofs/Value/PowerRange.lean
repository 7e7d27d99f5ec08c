import Reckon.Proofs.Decimal.Magnitude
import Reckon.Proofs.Value.Exponents
import Reckon.Proofs.Value.IntegerSize

/-!
# The range of powers

The place of the first digit of a decimal power stays within the limit that is foreseen from
the base and the exponent. What is foreseen counts the powers of ten on both sides of the base,
so that neither a carry nor the reciprocal for a negative exponent steps past it. The powers
of integers are too small for the limit to matter.
-/

namespace Reckon
namespace Value

section Powers

variable {l r v : Value} {base d : Decimal} {a exponent : Int}

/-- Whether a number lies between the powers of ten of the largest exponent, signs apart. -/
def InPowerRange (q : ℚ) : Prop :=
  Decimal.Between (-maxDecimalExponent) maxDecimalExponent q

theorem InPowerRange.leadingExponent_bounds (h : InPowerRange d.toRat) :
    -2 ^ 40 ≤ d.leadingExponent ∧ d.leadingExponent ≤ 2 ^ 40 :=
  Decimal.Between.leadingExponent_bounds h

theorem InPowerRange.inverse? {b : Decimal} (h : InPowerRange d.toRat) (hb : d.inverse? = some b) :
    InPowerRange b.toRat := by
  have hinverse := Decimal.Between.inverse? h hb
  rw [neg_neg] at hinverse
  exact hinverse

theorem quotientResult_eq_ok {d? : Option Decimal} (h : quotientResult d? = .ok (.decimal d)) :
    d? = some d := by
  cases d? with
  | none => cases h
  | some _ =>
      cases h
      rfl

/-!
## Powers of decimals
-/

theorem inPowerRange_one : InPowerRange (Decimal.ofInt 1).toRat := by
  rw [toRat_ofInt, InPowerRange, Decimal.Between, Int.cast_one, abs_one]
  exact ⟨zpow_le_one_of_nonpos₀ (by norm_num) (by decide), one_le_zpow₀ (by norm_num) (by decide)⟩

theorem inPowerRange_power (hne : (base.power exponent.natAbs).coefficient ≠ 0)
    (h : foreseenExponent base exponent ≤ maxDecimalExponent) :
    InPowerRange (base.power exponent.natAbs).toRat := by
  by_cases hbase : base.coefficient = 0
  · have hzero : exponent.natAbs = 0 := by
      rw [ne_eq, Decimal.coefficient_power_eq_zero_iff] at hne
      exact not_not.mp fun hexponent => hne ⟨hexponent, hbase⟩
    rw [hzero, Decimal.power_zero]
    exact inPowerRange_one
  · have hforeseen : (|base.leadingExponent| + 1) * (exponent.natAbs : Int) ≤
        maxDecimalExponent := by
      rw [Int.abs_eq_natAbs]
      exact_mod_cast h
    have hnonneg : (0 : Int) ≤ exponent.natAbs := Int.natCast_nonneg _
    apply ((Decimal.between_leadingExponent hbase).power exponent.natAbs).mono
    · have hlead := mul_le_mul_of_nonneg_left (neg_abs_le base.leadingExponent) hnonneg
      linarith
    · have hlead := mul_le_mul_of_nonneg_left (le_abs_self base.leadingExponent) hnonneg
      linarith

theorem inPowerRange_of_decimalPower (h : decimalPower .pow base exponent = .ok (.decimal d)) :
    d.toRat = 0 ∨ InPowerRange d.toRat := by
  by_cases hplace : base.hasPlace = true
  · rcases Nat.lt_or_ge maxDecimalExponent (foreseenExponent base exponent) with hlarge | hsmall
    · rw [decimalPower_of_lt hplace hlarge] at h
      cases h
    · rw [decimalPower_of_le hplace hsmall] at h
      by_cases hzero : (base.power exponent.natAbs).coefficient = 0
      · left
        split at h
        · have hinverse := quotientResult_eq_ok h
          rw [Decimal.inverse?, Decimal.div?, Decimal.isZero, hzero] at hinverse
          cases hinverse
        · cases h
          exact Decimal.toRat_eq_zero_iff.mpr hzero
      · right
        have hpower := inPowerRange_power hzero hsmall
        split at h
        · exact hpower.inverse? (quotientResult_eq_ok h)
        · cases h
          exact hpower
  · rw [decimalPower_of_not_hasPlace hplace] at h
    cases h

/-!
## Powers of integers
-/

theorem inPowerRange_ofInt_pow (ha : a ≠ 0)
    (h : (Integer.bitLength a - 1) * exponent.natAbs ≤ maxIntegerBits) :
    InPowerRange (Decimal.ofInt (Int.pow a exponent.natAbs)).toRat := by
  have hbits := (bitLength_pow_le_maxIntegerBits h).right
  have hone : 1 ≤ (Int.pow a exponent.natAbs).natAbs := by
    rw [Integer.natAbs_pow]
    exact Nat.one_le_pow _ _ (Int.natAbs_pos.mpr ha)
  have hwide : (Int.pow a exponent.natAbs).natAbs ≤ 10 ^ (2 * maxIntegerBits) :=
    (Integer.bitLength_le_iff.mp hbits).le.trans (Nat.pow_le_pow_left (by decide) _)
  have habs : |(Decimal.ofInt (Int.pow a exponent.natAbs)).toRat| =
      ((Int.pow a exponent.natAbs).natAbs : ℚ) := by
    rw [toRat_ofInt, ← Int.cast_abs, ← Nat.cast_natAbs]
  have hbetween : Decimal.Between 0 (2 * maxIntegerBits : Nat)
      (Decimal.ofInt (Int.pow a exponent.natAbs)).toRat := by
    rw [Decimal.Between, habs, zpow_zero, zpow_natCast]
    exact ⟨by exact_mod_cast hone, by exact_mod_cast hwide⟩
  exact hbetween.mono (by decide) (by decide)

theorem inPowerRange_of_integerPower (h : integerPower .pow a exponent = .ok (.decimal d)) :
    InPowerRange d.toRat := by
  unfold integerPower at h
  dsimp only at h
  split at h
  · cases h
  · next hwide =>
      have hbits := isTooWide_eq_false_iff.mp (Bool.eq_false_iff.mpr hwide)
      split at h
      · next hnegative =>
          have hinverse := quotientResult_eq_ok h
          have ha : a ≠ 0 := by
            rintro rfl
            have hzero : Int.pow 0 exponent.natAbs = 0 :=
              zero_pow (Int.natAbs_ne_zero.mpr hnegative.ne)
            rw [hzero] at hinverse
            cases hinverse
          exact (inPowerRange_ofInt_pow ha hbits).inverse? hinverse
      · cases h

/-- A decimal power is zero, or its first digit stands within the limit on either side, after
all roundings and also if it is a reciprocal. -/
theorem leadingExponent_of_apply_pow (h : l.apply .pow r = .ok (.decimal d)) :
    d.toRat = 0 ∨ -2 ^ 40 ≤ d.leadingExponent ∧ d.leadingExponent ≤ 2 ^ 40 := by
  unfold apply at h
  split at h
  · rcases exists_of_pow_eq_ok h with ⟨n, -, -, ⟨a, -, hpower⟩ | ⟨base, -, hpower⟩⟩
    · exact .inr (inPowerRange_of_integerPower hpower).leadingExponent_bounds
    · exact (inPowerRange_of_decimalPower hpower).imp_right InPowerRange.leadingExponent_bounds
  · cases h

/-- Both ends of the range are reached: by a hundred and one nines, which are rounded up to a
power of ten, and by the reciprocal of a number with its first digit one place below. -/
theorem leadingExponent_of_apply_pow_of_ends :
    let nines : Decimal := ⟨10 ^ 101 - 1, 101 - 2 ^ 40⟩
    let large : Decimal := ⟨-99, 2 - 2 ^ 40⟩
    (exists d, (Value.decimal nines).apply .pow (.integer 1) = .ok (.decimal d) ∧
        d.leadingExponent = 2 ^ 40 ∧ d.leadingExponent ≤ 2 ^ 40) ∧
      exists d, (Value.decimal large).apply .pow (.integer (-1)) = .ok (.decimal d) ∧
        d.leadingExponent = -2 ^ 40 ∧ -2 ^ 40 ≤ d.leadingExponent := by
  intro nines large
  have hnines : (Value.decimal nines).apply .pow (.integer 1) =
      .ok (.decimal ⟨10 ^ 100, 100 - 2 ^ 40⟩) := by decide +kernel
  have hlarge : (Value.decimal large).apply .pow (.integer (-1)) =
      .ok (.decimal ⟨-((10 ^ 100 - 1) / 99 * 10), 2 ^ 40 + 99⟩) := by decide +kernel
  refine ⟨⟨_, hnines, by decide +kernel, ?_⟩, _, hlarge, by decide +kernel, ?_⟩
  · rcases leadingExponent_of_apply_pow hnines with hzero | ⟨-, hupper⟩
    · exact absurd (Decimal.toRat_eq_zero_iff.mp hzero) (by decide)
    · exact hupper
  · rcases leadingExponent_of_apply_pow hlarge with hzero | ⟨hlower, -⟩
    · exact absurd (Decimal.toRat_eq_zero_iff.mp hzero) (by decide)
    · exact hlower

end Powers

end Value
end Reckon
