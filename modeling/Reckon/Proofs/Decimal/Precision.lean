import Mathlib.Algebra.Order.Round
import Reckon.Proofs.Decimal.Quotient

/-!
# Rounding as a function of the number

What rounding to some digits makes of a decimal depends on the number that it stands for
alone. The number is measured in units of the last digit that is kept. A positive measure
goes to the nearest whole number, a half upwards, and a negative one is cut. So a number
and its negative are rounded alike just where less than half a unit is cut off.
-/

namespace Reckon
namespace Decimal

open Numeral (tenPow)

/-!
## Numbers measured by their last digit
-/

/-- One unit of the last digit that is kept of a number. -/
def lastPlace (digits : Nat) (q : ℚ) : ℚ :=
  10 ^ (Int.log 10 |q| + 1 - digits)

/-- A number of units made whole: the nearest if it is positive, and cut if not. -/
def wholeUnits (m : ℚ) : Int :=
  if 0 < m then round m else ⌈m⌉

/-- A number rounded to so many digits. -/
def rounded (digits : Nat) (q : ℚ) : ℚ :=
  wholeUnits (q / lastPlace digits q) * lastPlace digits q

section Units

variable {digits : Nat} {d : Decimal} {q m : ℚ}

theorem lastPlace_pos (digits : Nat) (q : ℚ) : 0 < lastPlace digits q :=
  zpow_ten_pos _

theorem lastPlace_neg (digits : Nat) (q : ℚ) : lastPlace digits (-q) = lastPlace digits q := by
  rw [lastPlace, lastPlace, abs_neg]

theorem lastPlace_toRat (h : d.coefficient ≠ 0) (digits : Nat) :
    lastPlace digits d.toRat = 10 ^ (d.leadingExponent + 1 - digits) := by
  rw [lastPlace, leadingExponent_eq_log h]

theorem abs_units_bounds (hdigits : 0 < digits) (hq : q ≠ 0) :
    (tenPow (digits - 1) : ℚ) ≤ |q / lastPlace digits q| ∧
      |q / lastPlace digits q| < tenPow digits := by
  have hplace := lastPlace_pos digits q
  have hfirst : ((digits - 1 : Nat) : Int) + (Int.log 10 |q| + 1 - digits) = Int.log 10 |q| := by
    omega
  have hnext : (digits : Int) + (Int.log 10 |q| + 1 - digits) = Int.log 10 |q| + 1 := by omega
  rw [abs_div, abs_of_pos hplace, le_div_iff₀ hplace, div_lt_iff₀ hplace, lastPlace, cast_tenPow,
    cast_tenPow, ← zpow_ten_add, ← zpow_ten_add, hfirst, hnext]
  constructor
  · exact Int.zpow_log_le_self (by decide) (abs_pos.mpr hq)
  · exact Int.lt_zpow_succ_log_self (by decide) _

theorem wholeUnits_of_pos (h : 0 < m) : wholeUnits m = round m :=
  if_pos h

theorem wholeUnits_of_nonpos (h : m ≤ 0) : wholeUnits m = ⌈m⌉ :=
  if_neg (not_lt.mpr h)

theorem wholeUnits_intCast (n : Int) : wholeUnits n = n := by
  unfold wholeUnits
  split
  · exact round_intCast n
  · exact Int.ceil_intCast n

theorem toRat_div_lastPlace (h : d.coefficient ≠ 0) (digits : Nat) :
    d.toRat / lastPlace digits d.toRat = d.coefficient * 10 ^ ((digits : Int) - d.digitCount) := by
  have hplace : -d.scale - (d.leadingExponent + 1 - digits) = digits - d.digitCount := by
    rw [leadingExponent]
    omega
  rw [lastPlace_toRat h, toRat, mul_div_assoc, ← zpow_sub₀ (by decide), hplace]

theorem coefficient_dropDigits_eq_wholeUnits (h : d.coefficient ≠ 0) (count : Nat) :
    (d.dropDigits count).coefficient = wholeUnits ((d.coefficient : ℚ) / tenPow count) := by
  have hcut := Numeral.tenPow_pos count
  have hunit : (0 : ℚ) < tenPow count := Nat.cast_pos.mpr hcut
  rcases lt_or_gt_of_ne h with hneg | hpos
  · have habs : (d.coefficient : ℚ) = -(d.coefficient.natAbs : ℚ) := by
      rw [Nat.cast_natAbs, Int.cast_abs, abs_of_neg (Int.cast_lt_zero.mpr hneg), neg_neg]
    have hdown : (d.coefficient : ℚ) / tenPow count ≤ 0 :=
      div_nonpos_of_nonpos_of_nonneg (Int.cast_nonpos.mpr hneg.le) hunit.le
    rw [coefficient_dropDigits_of_neg hneg, wholeUnits_of_nonpos hdown, habs, neg_div,
      Int.ceil_neg, Rat.floor_natCast_div_natCast, Int.natCast_div]
  · have habs : (d.coefficient : ℚ) = (d.coefficient.natAbs : ℚ) := by
      rw [Nat.cast_natAbs, Int.cast_abs, abs_of_pos (Int.cast_pos.mpr hpos)]
    have hup : 0 < (d.coefficient : ℚ) / tenPow count := div_pos (Int.cast_pos.mpr hpos) hunit
    have hround := cast_roundedQuotient d.coefficient.natAbs hcut
    rw [coefficient_dropDigits_of_pos hpos, wholeUnits_of_pos hup, habs]
    exact_mod_cast hround

theorem coefficient_toPrecision (h : d.coefficient ≠ 0) (digits : Nat) :
    (d.toPrecision digits).coefficient = wholeUnits (d.toRat / lastPlace digits d.toRat) := by
  rw [toRat_div_lastPlace h]
  rcases Nat.lt_or_ge digits d.digitCount with hmany | hfew
  · have hplaces : (digits : Int) - d.digitCount = -((d.digitCount - digits : Nat) : Int) := by
      omega
    rw [toPrecision_of_lt hmany, coefficient_dropDigits_eq_wholeUnits h, hplaces, zpow_neg,
      ← cast_tenPow, div_eq_mul_inv]
  · have hplaces : (digits : Int) - d.digitCount = ((digits - d.digitCount : Nat) : Int) := by
      omega
    rw [toPrecision_of_le hfew, hplaces, ← cast_tenPow, ← Int.cast_natCast, ← Int.cast_mul,
      wholeUnits_intCast]
    rfl

theorem toRat_toPrecision (digits : Nat) (d : Decimal) :
    (d.toPrecision digits).toRat = rounded digits d.toRat := by
  by_cases hzero : d.coefficient = 0
  · have hround : (d.toPrecision digits).coefficient = 0 := by
      unfold toPrecision dropDigits addZeros roundingUnit
      split
      · rw [hzero, Int.zero_tdiv, if_neg (fun h => absurd h.left (lt_irrefl 0)), Int.add_zero]
      · rw [hzero, Int.zero_mul]
    rw [toRat_eq_zero_iff.mpr hround, toRat_eq_zero_iff.mpr hzero, rounded, zero_div,
      ← Int.cast_zero, wholeUnits_intCast, Int.cast_zero, zero_mul]
  · have hscale : -(d.toPrecision digits).scale = d.leadingExponent + 1 - digits := by
      rw [scale_toPrecision]
      omega
    rw [toRat, coefficient_toPrecision hzero, hscale, ← lastPlace_toRat hzero, rounded]

/-!
## Numbers and their negatives
-/

/-- Whether half a unit or more is cut off when a number is rounded to so many digits. -/
def RoundsUp (digits : Nat) (q : ℚ) : Prop :=
  1 / 2 ≤ Int.fract (|q| / lastPlace digits q)

theorem round_eq_floor_add (m : ℚ) :
    round m = ⌊m⌋ + if 1 / 2 ≤ Int.fract m then 1 else 0 := by
  have hsplit := Int.floor_add_fract m
  have hfract := Int.fract_lt_one m
  have hnonneg := Int.fract_nonneg m
  rw [round_eq, Int.floor_eq_iff]
  split
  · next hup =>
      push_cast
      constructor
      · linarith
      · linarith
  · next hdown =>
      rw [not_le] at hdown
      push_cast
      constructor
      · linarith
      · linarith

theorem wholeUnits_neg (m : ℚ) :
    wholeUnits (-m) = -wholeUnits m + if 1 / 2 ≤ Int.fract |m| then 1 else 0 := by
  rcases lt_trichotomy m 0 with hneg | rfl | hpos
  · rw [wholeUnits_of_pos (neg_pos.mpr hneg), wholeUnits_of_nonpos hneg.le, abs_of_neg hneg,
      round_eq_floor_add, Int.floor_neg]
  · rw [abs_zero, Int.fract_zero, if_neg (by norm_num), neg_zero, add_zero, wholeUnits,
      if_neg (lt_irrefl _), Int.ceil_zero, neg_zero]
  · rw [wholeUnits_of_nonpos (neg_nonpos.mpr hpos.le), wholeUnits_of_pos hpos, abs_of_pos hpos,
      round_eq_floor_add, Int.ceil_neg]
    ring

/-- A number and its negative are rounded alike just if less than half a unit is cut
off. -/
theorem rounded_neg_eq_iff : rounded digits (-q) = -rounded digits q <-> ¬ RoundsUp digits q := by
  have hplace := lastPlace_pos digits q
  have habs : |q / lastPlace digits q| = |q| / lastPlace digits q := by
    rw [abs_div, abs_of_pos hplace]
  rw [rounded, rounded, lastPlace_neg, neg_div, wholeUnits_neg, habs, ← neg_mul,
    mul_left_inj' hplace.ne', RoundsUp]
  split
  · next hup =>
      rw [← Int.cast_neg, Int.cast_inj, add_eq_left]
      exact iff_of_false one_ne_zero (not_not.mpr hup)
  · next hdown =>
      rw [← Int.cast_neg, Int.cast_inj, add_zero]
      exact iff_of_true rfl hdown

end Units

end Decimal
end Reckon
