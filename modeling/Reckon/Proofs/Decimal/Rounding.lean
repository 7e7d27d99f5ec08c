import Mathlib.Data.Int.Log
import Mathlib.Data.Rat.Floor
import Mathlib.Tactic.Ring
import Reckon.Decimal.Basic
import Reckon.Proofs.Numeral.Places

/-!
# What rounding does to a decimal

Decimals stand for rational numbers. Rounding to a number of digits keeps the
sign, moves the number by less than one unit of the last digit kept, and by at
most half a unit where it goes to the nearest, which is for positive numbers.
-/

namespace Reckon
namespace Decimal

open Numeral (tenPow)

/-!
## Decimals as rational numbers
-/

/-- The number that a decimal stands for. -/
def toRat (d : Decimal) : ℚ :=
  d.coefficient * 10 ^ (-d.scale)

theorem cast_tenPow (n : Nat) : ((tenPow n : Nat) : ℚ) = 10 ^ (n : Int) := by
  rw [zpow_natCast]
  exact Nat.cast_pow 10 n

theorem zpow_ten_pos (e : Int) : (0 : ℚ) < 10 ^ e :=
  zpow_pos (by decide) e

theorem zpow_ten_add (e f : Int) : (10 : ℚ) ^ (e + f) = 10 ^ e * 10 ^ f :=
  zpow_add₀ (by decide) e f

theorem toRat_eq_zero_iff {d : Decimal} : d.toRat = 0 <-> d.coefficient = 0 := by
  rw [toRat, mul_eq_zero, Int.cast_eq_zero]
  exact or_iff_left (zpow_ten_pos _).ne'

theorem toRat_pos_iff {d : Decimal} : 0 < d.toRat <-> 0 < d.coefficient := by
  rw [toRat, mul_pos_iff_of_pos_right (zpow_ten_pos _), Int.cast_pos]

theorem toRat_neg_iff {d : Decimal} : d.toRat < 0 <-> d.coefficient < 0 := by
  rw [← neg_pos, toRat, ← neg_mul, mul_pos_iff_of_pos_right (zpow_ten_pos _), neg_pos,
    Int.cast_lt_zero]

theorem abs_toRat (d : Decimal) :
    |d.toRat| = (d.coefficient.natAbs : ℚ) * 10 ^ (-d.scale) := by
  rw [toRat, abs_mul, abs_of_pos (zpow_ten_pos _), ← Int.cast_abs, ← Nat.cast_natAbs]

theorem log_mul_zpow_ten {q : ℚ} {count : Nat} (hcount : 0 < count)
    (hlow : ((tenPow (count - 1) : Nat) : ℚ) ≤ q) (hhigh : q < (tenPow count : Nat))
    (place : Int) : Int.log 10 (q * 10 ^ place) = count - 1 + place := by
  have hpos : 0 < q * 10 ^ place :=
    mul_pos (lt_of_lt_of_le (Nat.cast_pos.mpr (Numeral.tenPow_pos _)) hlow) (zpow_ten_pos place)
  have hleast : (count : Int) - 1 + place = ((count - 1 : Nat) : Int) + place := by omega
  have hmost : (count : Int) - 1 + place + 1 = (count : Int) + place := by omega
  apply le_antisymm
  · rw [← Int.lt_add_one_iff, ← Int.lt_zpow_iff_log_lt (by decide) hpos, hmost]
    exact lt_of_lt_of_eq (mul_lt_mul_of_pos_right hhigh (zpow_ten_pos place))
      (cast_tenPow count ▸ (zpow_ten_add _ _).symm)
  · rw [← Int.zpow_le_iff_le_log (by decide) hpos, hleast]
    exact le_of_eq_of_le (cast_tenPow (count - 1) ▸ zpow_ten_add _ _)
      (mul_le_mul_of_nonneg_right hlow (zpow_ten_pos place).le)

theorem leadingExponent_eq_log {d : Decimal} (h : d.coefficient ≠ 0) :
    d.leadingExponent = Int.log 10 |d.toRat| := by
  have hlow := Numeral.tenPow_digitCount_le (Int.natAbs_ne_zero.mpr h)
  have hhigh := Numeral.lt_tenPow_digitCount d.coefficient.natAbs
  rw [abs_toRat, log_mul_zpow_ten (Numeral.digitCount_pos _) (Nat.cast_le.mpr hlow)
    (Nat.cast_lt.mpr hhigh), leadingExponent, Int.sub_eq_add_neg]
  rfl

/-!
## Cutting digits off

A positive number is cut and rounded to the nearest, a half upwards; a negative one
is only cut. On magnitudes both are a quotient by a power of ten, to which a positive
number may add one.
-/

theorem coefficient_dropDigits_of_nonneg {d : Decimal} (h : 0 ≤ d.coefficient) (count : Nat) :
    exists unit : Nat, (d.dropDigits count).coefficient =
        ((d.coefficient.natAbs / tenPow count + unit : Nat) : Int) ∧ unit ≤ 1 ∧
      (unit = 1 <-> 0 < d.coefficient ∧
        tenPow count ≤ 2 * (d.coefficient.natAbs % tenPow count)) := by
  have hdiv : d.coefficient.tdiv (tenPow count) =
      ((d.coefficient.natAbs / tenPow count : Nat) : Int) := by
    rw [Int.natCast_div, Int.natAbs_of_nonneg h, Int.tdiv_eq_ediv_of_nonneg h]
  rw [dropDigits, hdiv, roundingUnit]
  split
  · next hup => exact ⟨1, rfl, le_refl 1, iff_of_true rfl hup⟩
  · next hdown => exact ⟨0, rfl, Nat.zero_le 1, iff_of_false Nat.zero_ne_one hdown⟩

theorem coefficient_dropDigits_of_neg {d : Decimal} (h : d.coefficient < 0) (count : Nat) :
    (d.dropDigits count).coefficient =
      -((d.coefficient.natAbs / tenPow count : Nat) : Int) := by
  have hunit : roundingUnit d.coefficient count = 0 := by
    rw [roundingUnit, if_neg]
    omega
  have habs : d.coefficient = -(d.coefficient.natAbs : Int) := by omega
  have hdiv : d.coefficient.tdiv (tenPow count) =
      -((d.coefficient.natAbs / tenPow count : Nat) : Int) := by
    conv_lhs => rw [habs, Int.neg_tdiv]
    rw [Int.ofNat_tdiv]
  rw [dropDigits, hunit, hdiv, add_zero]

theorem natAbs_dropDigits (d : Decimal) (count : Nat) :
    d.coefficient.natAbs / tenPow count ≤ (d.dropDigits count).coefficient.natAbs ∧
      (d.dropDigits count).coefficient.natAbs ≤ d.coefficient.natAbs / tenPow count + 1 := by
  rcases Int.lt_or_le d.coefficient 0 with hneg | hnonneg
  · rw [coefficient_dropDigits_of_neg hneg, Int.natAbs_neg, Int.natAbs_natCast]
    exact ⟨Nat.le_refl _, Nat.le_succ _⟩
  · rcases coefficient_dropDigits_of_nonneg hnonneg count with ⟨unit, hcut, hle, -⟩
    rw [hcut, Int.natAbs_natCast]
    exact ⟨Nat.le_add_right _ _, Nat.add_le_add_left hle _⟩

theorem sign_dropDigits {d : Decimal} {count : Nat}
    (h : 0 < d.coefficient.natAbs / tenPow count) :
    (d.dropDigits count).coefficient.sign = d.coefficient.sign := by
  have hne : d.coefficient ≠ 0 := by
    intro hzero
    rw [hzero, Int.natAbs_zero, Nat.zero_div] at h
    exact Nat.lt_irrefl 0 h
  rcases Int.lt_or_lt_of_ne hne with hneg | hpos
  · rw [coefficient_dropDigits_of_neg hneg, Int.sign_eq_neg_one_of_neg hneg]
    exact Int.sign_eq_neg_one_of_neg (Int.neg_neg_of_pos (Int.natCast_pos.mpr h))
  · rcases coefficient_dropDigits_of_nonneg (Int.le_of_lt hpos) count with ⟨unit, hcut, -⟩
    rw [hcut, Int.sign_eq_one_of_pos hpos]
    exact Int.sign_eq_one_of_pos (Int.natCast_pos.mpr (Nat.lt_of_lt_of_le h
      (Nat.le_add_right _ _)))

theorem natAbs_dropDigits_sub (d : Decimal) (count : Nat) :
    ((d.dropDigits count).coefficient * tenPow count - d.coefficient).natAbs < tenPow count ∧
      (0 < d.coefficient ->
        2 * ((d.dropDigits count).coefficient * tenPow count - d.coefficient).natAbs ≤
          tenPow count) := by
  have hpos := Numeral.tenPow_pos count
  have hrest := Nat.mod_lt d.coefficient.natAbs hpos
  have hsplit := Nat.div_add_mod d.coefficient.natAbs (tenPow count)
  -- the error of a cut is the remainder, and that of rounding up what it lacks to the
  -- next multiple
  rcases Int.lt_or_le d.coefficient 0 with hneg | hnonneg
  · have herror : (d.dropDigits count).coefficient * tenPow count - d.coefficient =
        ((d.coefficient.natAbs % tenPow count : Nat) : Int) := by
      rw [coefficient_dropDigits_of_neg hneg, neg_mul, ← Int.natCast_mul, Nat.mul_comm]
      omega
    rw [herror]
    omega
  · rcases coefficient_dropDigits_of_nonneg hnonneg count with ⟨unit, hcut, hle, hunit⟩
    have herror : (d.dropDigits count).coefficient * tenPow count - d.coefficient =
        (unit * tenPow count : Nat) - ((d.coefficient.natAbs % tenPow count : Nat) : Int) := by
      rw [hcut, ← Int.natCast_mul, Nat.add_mul, Nat.mul_comm]
      omega
    rw [herror]
    rcases Nat.le_one_iff_eq_zero_or_eq_one.mp hle with rfl | rfl
    · have hdown := mt hunit.mpr Nat.zero_ne_one
      omega
    · have hup := hunit.mp rfl
      omega

/-!
## Rounding to a number of digits
-/

theorem toPrecision_of_lt {digits : Nat} {d : Decimal} (h : digits < d.digitCount) :
    d.toPrecision digits = d.dropDigits (d.digitCount - digits) :=
  if_pos h

theorem toPrecision_of_le {digits : Nat} {d : Decimal} (h : d.digitCount ≤ digits) :
    d.toPrecision digits = d.addZeros (digits - d.digitCount) :=
  if_neg (Nat.not_lt.mpr h)

theorem scale_toPrecision (digits : Nat) (d : Decimal) :
    (d.toPrecision digits).scale = digits - 1 - d.leadingExponent := by
  unfold toPrecision leadingExponent
  split
  · simp only [dropDigits]
    omega
  · simp only [addZeros]
    omega

theorem div_tenPow_bounds {digits : Nat} (hdigits : 0 < digits) {d : Decimal}
    (h : digits < d.digitCount) :
    tenPow (digits - 1) ≤ d.coefficient.natAbs / tenPow (d.digitCount - digits) ∧
      d.coefficient.natAbs / tenPow (d.digitCount - digits) < tenPow digits := by
  have hne : d.coefficient.natAbs ≠ 0 := by
    intro hzero
    rw [digitCount, hzero, Numeral.digitCount_of_lt (by decide)] at h
    exact absurd hdigits (Nat.not_lt.mpr (Nat.le_of_lt_succ h))
  have hpos := Numeral.tenPow_pos (d.digitCount - digits)
  have hleast : digits - 1 + (d.digitCount - digits) = d.digitCount - 1 := by omega
  have hmost : digits + (d.digitCount - digits) = d.digitCount := by omega
  constructor
  · rw [Nat.le_div_iff_mul_le hpos, ← Numeral.tenPow_add, hleast]
    exact Numeral.tenPow_digitCount_le hne
  · rw [Nat.div_lt_iff_lt_mul hpos, ← Numeral.tenPow_add, hmost]
    exact Numeral.lt_tenPow_digitCount _

theorem mul_tenPow_bounds {digits : Nat} {d : Decimal} (hne : d.coefficient ≠ 0)
    (h : d.digitCount ≤ digits) :
    tenPow (digits - 1) ≤ d.coefficient.natAbs * tenPow (digits - d.digitCount) ∧
      d.coefficient.natAbs * tenPow (digits - d.digitCount) < tenPow digits := by
  have hpos := Numeral.tenPow_pos (digits - d.digitCount)
  have hcount : 0 < d.digitCount := Numeral.digitCount_pos _
  have hleast : digits - 1 = d.digitCount - 1 + (digits - d.digitCount) := by omega
  have hmost : tenPow digits = tenPow d.digitCount * tenPow (digits - d.digitCount) := by
    rw [← Numeral.tenPow_add, Nat.add_sub_cancel' h]
  constructor
  · rw [hleast, Numeral.tenPow_add]
    exact Nat.mul_le_mul_right _ (Numeral.tenPow_digitCount_le (Int.natAbs_ne_zero.mpr hne))
  · rw [hmost]
    exact Nat.mul_lt_mul_of_pos_right (Numeral.lt_tenPow_digitCount _) hpos

theorem natAbs_toPrecision {digits : Nat} (hdigits : 0 < digits) {d : Decimal}
    (h : d.coefficient ≠ 0) :
    tenPow (digits - 1) ≤ (d.toPrecision digits).coefficient.natAbs ∧
      (d.toPrecision digits).coefficient.natAbs ≤ tenPow digits := by
  rcases Nat.lt_or_ge digits d.digitCount with hmany | hfew
  · rcases div_tenPow_bounds hdigits hmany with ⟨hlow, hhigh⟩
    rcases natAbs_dropDigits d (d.digitCount - digits) with ⟨hleast, hmost⟩
    rw [toPrecision_of_lt hmany]
    exact ⟨Nat.le_trans hlow hleast, Nat.le_trans hmost hhigh⟩
  · rcases mul_tenPow_bounds h hfew with ⟨hlow, hhigh⟩
    rw [toPrecision_of_le hfew, addZeros, Int.natAbs_mul, Int.natAbs_natCast]
    exact ⟨hlow, Nat.le_of_lt hhigh⟩

theorem sign_toPrecision {digits : Nat} (hdigits : 0 < digits) (d : Decimal) :
    (d.toPrecision digits).coefficient.sign = d.coefficient.sign := by
  rcases Nat.lt_or_ge digits d.digitCount with hmany | hfew
  · have hlow := (div_tenPow_bounds hdigits hmany).left
    rw [toPrecision_of_lt hmany]
    exact sign_dropDigits (Nat.lt_of_lt_of_le (Numeral.tenPow_pos _) hlow)
  · have hpos : 0 < ((tenPow (digits - d.digitCount) : Nat) : Int) :=
      Int.natCast_pos.mpr (Numeral.tenPow_pos _)
    rw [toPrecision_of_le hfew, addZeros, Int.sign_mul, Int.sign_eq_one_of_pos hpos,
      Int.mul_one]

theorem toRat_addZeros (d : Decimal) (count : Nat) : (d.addZeros count).toRat = d.toRat := by
  have hscale : -(d.scale + count) + count = -d.scale := by omega
  rw [toRat, addZeros, toRat, Int.cast_mul, Int.cast_natCast, cast_tenPow, mul_assoc,
    ← zpow_ten_add, Int.add_comm, hscale]

theorem toRat_dropDigits_sub (d : Decimal) (count : Nat) :
    (d.dropDigits count).toRat - d.toRat =
      (((d.dropDigits count).coefficient * tenPow count - d.coefficient : Int) : ℚ) *
        10 ^ (-d.scale) := by
  have hscale : -(d.dropDigits count).scale = (count : Int) + -d.scale := by
    show -(d.scale - count) = (count : Int) + -d.scale
    omega
  rw [toRat, toRat, hscale, zpow_ten_add, ← cast_tenPow]
  push_cast
  ring

/-- Rounding to some digits moves a number by less than one unit of the last of them,
and a positive number by at most half of it. -/
theorem abs_toPrecision_sub_lt (digits : Nat) (d : Decimal) :
    |(d.toPrecision digits).toRat - d.toRat| < 10 ^ (d.leadingExponent + 1 - digits) ∧
      (0 < d.toRat -> 2 * |(d.toPrecision digits).toRat - d.toRat| ≤
        10 ^ (d.leadingExponent + 1 - digits)) := by
  rcases Nat.lt_or_ge digits d.digitCount with hmany | hfew
  · have hunit : (10 : ℚ) ^ (d.leadingExponent + 1 - digits) =
        (tenPow (d.digitCount - digits) : Nat) * 10 ^ (-d.scale) := by
      have hexponent : d.leadingExponent + 1 - digits =
          ((d.digitCount - digits : Nat) : Int) + -d.scale := by
        rw [leadingExponent]
        omega
      rw [cast_tenPow, ← zpow_ten_add, hexponent]
    have hbounds := natAbs_dropDigits_sub d (d.digitCount - digits)
    rw [toPrecision_of_lt hmany, hunit, toRat_dropDigits_sub, abs_mul,
      abs_of_pos (zpow_ten_pos _), ← Int.cast_abs, ← Nat.cast_natAbs, toRat_pos_iff]
    constructor
    · exact mul_lt_mul_of_pos_right (Nat.cast_lt.mpr hbounds.left) (zpow_ten_pos _)
    · intro hpos
      rw [← mul_assoc]
      apply mul_le_mul_of_nonneg_right _ (zpow_ten_pos _).le
      exact_mod_cast hbounds.right hpos
  · rw [toPrecision_of_le hfew, toRat_addZeros, sub_self, abs_zero, mul_zero]
    exact ⟨zpow_ten_pos _, fun _ => (zpow_ten_pos _).le⟩

end Decimal
end Reckon
