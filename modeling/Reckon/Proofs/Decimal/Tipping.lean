import Mathlib.Tactic.NormNum
import Reckon.Proofs.Decimal.Gaps

/-!
# Where a dropped operand is missed

A number that is far smaller than another one can still change what their sum is rounded
to. It does so where it carries what is cut off from the larger one across the point at
which rounding changes: half a unit of the last digit that is kept for positive numbers,
a whole unit or none for negative ones. A positive number without any digits behind those
that are kept is too far from such a point.
-/

namespace Reckon
namespace Decimal

open Numeral (tenPow)

/-!
## Numbers of units close to a whole number
-/

section Units

variable {m : ℚ} {k : Int}

theorem wholeUnits_of_above (hlow : k ≤ |m|) (hhigh : |m| < k + 1 / 2) :
    wholeUnits m = if 0 < m then k else -k := by
  split
  · next hpos =>
      rw [abs_of_pos hpos] at hlow hhigh
      rw [wholeUnits_of_pos hpos, round_eq, Int.floor_eq_iff]
      constructor
      · linarith
      · linarith
  · next hneg =>
      rw [not_lt] at hneg
      rw [abs_of_nonpos hneg] at hlow hhigh
      rw [wholeUnits_of_nonpos hneg, Int.ceil_eq_iff]
      push_cast
      constructor
      · linarith
      · linarith

theorem wholeUnits_of_below (hlow : k - 1 / 2 ≤ |m|) (hhigh : |m| < k) :
    wholeUnits m = if 0 < m then k else 1 - k := by
  split
  · next hpos =>
      rw [abs_of_pos hpos] at hlow hhigh
      rw [wholeUnits_of_pos hpos, round_eq, Int.floor_eq_iff]
      constructor
      · linarith
      · linarith
  · next hneg =>
      rw [not_lt] at hneg
      rw [abs_of_nonpos hneg] at hlow hhigh
      rw [wholeUnits_of_nonpos hneg, Int.ceil_eq_iff]
      push_cast
      constructor
      · linarith
      · linarith

theorem wholeUnits_tenth (hlow : 10 * k ≤ |m|) (hhigh : |m| < 10 * k + 1 / 2) :
    (wholeUnits (m / 10) : ℚ) * 10 = wholeUnits m := by
  have habs : |m / 10| = |m| / 10 := by rw [abs_div, abs_of_pos (by norm_num : (0 : ℚ) < 10)]
  have htens := wholeUnits_of_above (m := m / 10) (k := k) (by linarith) (by linarith)
  have hunits := wholeUnits_of_above (m := m) (k := 10 * k) (by push_cast; linarith)
    (by push_cast; linarith)
  by_cases hpos : 0 < m
  · rw [htens, hunits, if_pos hpos, if_pos (div_pos hpos (by norm_num))]
    push_cast
    ring
  · have hneg : ¬ 0 < m / 10 := by
      rw [div_pos_iff_of_pos_right (by norm_num)]
      exact hpos
    rw [htens, hunits, if_neg hpos, if_neg hneg]
    push_cast
    ring

theorem wholeUnits_tenfold (hpos : 0 < m) (hlow : k - 1 / 20 ≤ m) (hhigh : m < k) :
    wholeUnits (m * 10) = wholeUnits m * 10 := by
  have hten : 0 < m * 10 := mul_pos hpos (by norm_num)
  have habs := abs_of_pos hpos
  have htenfold := abs_of_pos hten
  rw [wholeUnits_of_below (m := m * 10) (k := 10 * k) (by push_cast; linarith)
    (by push_cast; linarith), wholeUnits_of_below (m := m) (k := k) (by linarith) (by linarith),
    if_pos hpos, if_pos hten, Int.mul_comm]

end Units

/-!
## Rounding a number that is moved a little
-/

/-- Whether adding `y` to a number `x` changes how many units of the last digit that is
kept of `x` it is rounded to. -/
def TipsRounding (digits : Nat) (x y : ℚ) : Prop :=
  wholeUnits ((x + y) / lastPlace digits x) ≠ wholeUnits (x / lastPlace digits x)

section Moved

variable {digits : Nat} {q x y : ℚ}

theorem cast_tenPow_eq_ten_mul (hdigits : 0 < digits) :
    (tenPow digits : ℚ) = 10 * (tenPow (digits - 1) : Nat) := by
  conv_lhs => rw [← Nat.sub_add_cancel hdigits, Numeral.tenPow_succ]
  push_cast
  ring

theorem abs_div_lastPlace_lt (hy : 100 * |y| < lastPlace digits x) :
    |y / lastPlace digits x| < 1 / 100 := by
  have hplace := lastPlace_pos digits x
  rw [abs_div, abs_of_pos hplace, div_lt_iff₀ hplace]
  linarith

theorem lastPlace_mul_zpow (hdigits : 0 < digits) {m : ℚ} (hlow : tenPow (digits - 1) ≤ |m|)
    (hhigh : |m| < tenPow digits) (e : Int) : lastPlace digits (m * 10 ^ e) = 10 ^ e := by
  have hexponent : (digits : Int) - 1 + e + 1 - digits = e := by omega
  rw [lastPlace, abs_mul, abs_of_pos (zpow_ten_pos e), log_mul_zpow_ten hdigits hlow hhigh,
    hexponent]

theorem mul_zpow_ten_eq_tenfold (m : ℚ) (e : Int) : m * 10 ^ e = m * 10 * 10 ^ (e - 1) := by
  rw [zpow_sub_one₀ (by norm_num)]
  ring

theorem mul_zpow_ten_eq_tenth (m : ℚ) (e : Int) : m * 10 ^ e = m / 10 * 10 ^ (e + 1) := by
  rw [zpow_add_one₀ (by norm_num)]
  ring

theorem rounded_mul_zpow_of_lt (hdigits : 0 < digits) {m : ℚ}
    (hlow : (tenPow (digits - 1) : ℚ) ≤ |m|) (hhigh : |m| < tenPow digits) (e : Int) :
    rounded digits (m * 10 ^ e) = wholeUnits m * 10 ^ e := by
  rw [rounded, lastPlace_mul_zpow hdigits hlow hhigh, mul_div_cancel_right₀ _ (zpow_ten_pos e).ne']

theorem rounded_mul_zpow_of_carry (hdigits : 0 < digits) {m : ℚ}
    (hlow : (tenPow digits : ℚ) ≤ |m|) (hhigh : |m| < tenPow digits + 1 / 2) (e : Int) :
    rounded digits (m * 10 ^ e) = wholeUnits m * 10 ^ e := by
  have hten := cast_tenPow_eq_ten_mul hdigits
  have hone : (1 : ℚ) ≤ tenPow (digits - 1) := Nat.one_le_cast.mpr (Numeral.tenPow_pos _)
  have habs : |m / 10| = |m| / 10 := by rw [abs_div, abs_of_pos (by norm_num : (0 : ℚ) < 10)]
  have hround := wholeUnits_tenth (m := m) (k := tenPow (digits - 1)) (by push_cast; linarith)
    (by push_cast; linarith)
  rw [mul_zpow_ten_eq_tenth, rounded_mul_zpow_of_lt hdigits (by linarith) (by linarith), ← hround,
    zpow_add_one₀ (by norm_num)]
  ring

theorem rounded_mul_zpow_of_pos_of_borrow (hdigits : 0 < digits) {m : ℚ}
    (hlow : (tenPow (digits - 1) : ℚ) - 1 / 20 ≤ m) (hhigh : m < tenPow (digits - 1)) (e : Int) :
    rounded digits (m * 10 ^ e) = wholeUnits m * 10 ^ e := by
  have hten := cast_tenPow_eq_ten_mul hdigits
  have hone : (1 : ℚ) ≤ tenPow (digits - 1) := Nat.one_le_cast.mpr (Numeral.tenPow_pos _)
  have hpos : 0 < m := by linarith
  have habs : |m * 10| = m * 10 := abs_of_pos (by linarith)
  have hround := wholeUnits_tenfold (k := tenPow (digits - 1)) hpos hlow hhigh
  rw [mul_zpow_ten_eq_tenfold, rounded_mul_zpow_of_lt hdigits (by linarith) (by linarith), hround,
    mul_zpow_ten_eq_tenfold _ e]
  push_cast
  ring

/-- A carry or a borrow changes the unit, but not what a number is rounded to, unless a
negative number borrows. -/
theorem rounded_mul_zpow (hdigits : 0 < digits) {m : ℚ}
    (hlow : tenPow (digits - 1) ≤ |m| ∨ (tenPow (digits - 1) : ℚ) - 1 / 20 ≤ m)
    (hhigh : |m| < tenPow digits + 1 / 2) (e : Int) :
    rounded digits (m * 10 ^ e) = wholeUnits m * 10 ^ e := by
  rcases lt_or_ge |m| (tenPow digits) with hless | hcarry
  · rcases le_or_gt (tenPow (digits - 1) : ℚ) |m| with hsame | hborrow
    · exact rounded_mul_zpow_of_lt hdigits hsame hless e
    · have hnear := hlow.resolve_left (not_le.mpr hborrow)
      exact rounded_mul_zpow_of_pos_of_borrow hdigits hnear ((le_abs_self m).trans_lt hborrow) e
  · exact rounded_mul_zpow_of_carry hdigits hcarry hhigh e

theorem rounded_mul_zpow_of_borrow (hdigits : 0 < digits) {m : ℚ} (hneg : m < 0)
    (hlow : (tenPow (digits - 1) : ℚ) - 1 / 20 ≤ |m|) (hhigh : |m| < tenPow (digits - 1))
    (e : Int) : rounded digits (m * 10 ^ e) = (1 / 10 - tenPow (digits - 1)) * 10 ^ e := by
  -- A negative number that borrows across a power of ten is rounded in smaller units, and to
  -- another number.
  have hten := cast_tenPow_eq_ten_mul hdigits
  have hone : (1 : ℚ) ≤ tenPow (digits - 1) := Nat.one_le_cast.mpr (Numeral.tenPow_pos _)
  have habs : |m * 10| = |m| * 10 := by
    rw [abs_mul, abs_of_pos (by norm_num : (0 : ℚ) < 10)]
  have hround := wholeUnits_of_below (m := m * 10) (k := 10 * tenPow (digits - 1))
    (by push_cast; linarith) (by push_cast; linarith)
  rw [mul_zpow_ten_eq_tenfold, rounded_mul_zpow_of_lt hdigits (by linarith) (by linarith), hround,
    if_neg (by linarith), mul_zpow_ten_eq_tenfold _ e]
  push_cast
  ring

theorem rounded_mul_zpow_eq_iff (hdigits : 0 < digits) {m n : ℚ}
    (hlow : (tenPow (digits - 1) : ℚ) ≤ |m|) (hhigh : |m| < tenPow digits)
    (hnear : |n - m| < 1 / 100) (e : Int) :
    rounded digits (n * 10 ^ e) = wholeUnits m * 10 ^ e <-> wholeUnits n = wholeUnits m := by
  have hunit := (zpow_ten_pos e).ne'
  have hone : (1 : ℚ) ≤ tenPow (digits - 1) := Nat.one_le_cast.mpr (Numeral.tenPow_pos _)
  have hsize := abs_le.mp ((abs_abs_sub_abs_le n m).trans hnear.le)
  rw [abs_lt] at hnear
  by_cases hborrow : m < 0 ∧ |n| < tenPow (digits - 1)
  · rcases hborrow with ⟨hneg, hless⟩
    have hnegative : n < 0 := by
      rw [abs_of_neg hneg] at hlow
      linarith
    have hcut := wholeUnits_of_above (m := m) (k := tenPow (digits - 1)) hlow
      (by push_cast; linarith)
    have hcutLess := wholeUnits_of_below (m := n) (k := tenPow (digits - 1))
      (by push_cast; linarith) hless
    rw [rounded_mul_zpow_of_borrow hdigits hnegative (by linarith) hless, hcut, hcutLess,
      if_neg hneg.not_gt, if_neg hnegative.not_gt, mul_left_inj' hunit]
    apply iff_of_false
    · intro heq
      push_cast at heq
      linarith
    · omega
  · have hkept : (tenPow (digits - 1) : ℚ) ≤ |n| ∨ (tenPow (digits - 1) : ℚ) - 1 / 20 ≤ n := by
      rw [not_and_or, not_lt, not_lt] at hborrow
      rcases hborrow with hnonneg | hmany
      · rw [abs_of_nonneg hnonneg] at hlow
        right
        linarith
      · exact .inl hmany
    rw [rounded_mul_zpow hdigits hkept (by linarith), mul_left_inj' hunit, Int.cast_inj]

/-- Adding a small number changes what a number is rounded to just if it changes the
number of units. -/
theorem rounded_add_eq_iff (hdigits : 0 < digits) (hx : x ≠ 0)
    (hy : 100 * |y| < lastPlace digits x) :
    rounded digits (x + y) = rounded digits x <-> ¬ TipsRounding digits x y := by
  have hplace := (lastPlace_pos digits x).ne'
  have hmoved : (x + y) / lastPlace digits x - x / lastPlace digits x = y / lastPlace digits x := by
    rw [← sub_div, add_sub_cancel_left]
  have hnear := abs_div_lastPlace_lt hy
  rw [← hmoved] at hnear
  rcases abs_units_bounds hdigits hx with ⟨hlow, hhigh⟩
  rw [TipsRounding, not_not, ← rounded_mul_zpow_eq_iff hdigits hlow hhigh hnear, ← lastPlace,
    div_mul_cancel₀ _ hplace]
  rfl

theorem not_tipsRounding_of_fitsIn (hdigits : 0 < digits) (hx : 0 < x)
    (hy : 100 * |y| < lastPlace digits x) (hfits : FitsIn digits x) :
    ¬ TipsRounding digits x y := by
  have hplace := lastPlace_pos digits x
  have hwhole : (wholeUnits (x / lastPlace digits x) : ℚ) = x / lastPlace digits x := by
    rcases hfits with ⟨d, hcount, rfl⟩
    have hexact := toRat_toPrecision_of_fitsIn hdigits ⟨d, hcount, rfl⟩
    rw [toRat_toPrecision, rounded] at hexact
    rw [eq_div_iff hplace.ne', hexact]
  have hpos : 0 < wholeUnits (x / lastPlace digits x) := by
    rw [← Int.cast_pos (R := ℚ), hwhole]
    exact div_pos hx hplace
  have hone : (1 : ℚ) ≤ wholeUnits (x / lastPlace digits x) := by exact_mod_cast hpos
  have hnear := abs_lt.mp (abs_div_lastPlace_lt hy)
  rw [TipsRounding, not_not, add_div, ← hwhole]
  generalize wholeUnits (x / lastPlace digits x) = k at *
  rw [wholeUnits_intCast, wholeUnits_of_pos (by linarith), round_eq, Int.floor_eq_iff]
  constructor
  · linarith
  · linarith

end Moved

/-!
## Sums across a gap
-/

section Sums

variable {a b : Decimal}

/-- The sum of two decimals that are far apart is their exact sum, rounded, just if the
smaller one does not change how many units the larger one is rounded to. It is so in
particular if the larger one is positive and has no digits behind those that are kept.
The sum traps just if a first digit lacks a place, never as the larger one is rounded. -/
theorem sum_eq_rounded_exactSum_iff (h : FarApart a b) :
    (a.sum? b = some (a.sum b) <-> a.hasPlace = true ∧ b.hasPlace = true) ∧
      (a.hasPlace = true -> b.hasPlace = true -> canRound precision (larger a b) = true) ∧
      ((a.sum b).toRat = ((exactSum a b).toPrecision precision).toRat <->
        ¬ TipsRounding precision (larger a b).toRat (smaller a b).toRat) ∧
      (0 < (larger a b).toRat -> FitsIn precision (larger a b).toRat ->
        (a.sum b).toRat = ((exactSum a b).toPrecision precision).toRat) := by
  have hkept : 0 < precision := by decide
  have hne := mt toRat_eq_zero_iff.mp h.larger_ne_zero
  have hiff : (a.sum b).toRat = ((exactSum a b).toPrecision precision).toRat <->
      ¬ TipsRounding precision (larger a b).toRat (smaller a b).toRat := by
    rw [sum_of_farApart h, toRat_toPrecision, toRat_toPrecision, toRat_exactSum,
      ← larger_add_smaller, eq_comm]
    exact rounded_add_eq_iff hkept hne h.abs_smaller_lt
  refine ⟨h.sum?_eq_some_iff.trans (and_iff_left rfl), h.canRound_larger, hiff, ?_⟩
  intro hpos hfits
  exact hiff.mpr (not_tipsRounding_of_fitsIn hkept hpos h.abs_smaller_lt hfits)

end Sums

/-- A one from which far less than its last digit is taken, which borrows across a power
of ten. -/
theorem sum_eq_rounded_exactSum_iff_of_borrow :
    let a : Decimal := ⟨1, 0⟩
    let b : Decimal := ⟨-1, 102⟩
    FarApart a b ∧ exactSum a b = ⟨10 ^ 102 - 1, 102⟩ ∧
      (a.sum b).toRat = ((exactSum a b).toPrecision precision).toRat := by
  intro a b
  have hfar : FarApart a b := by decide +kernel
  have hlarger : larger a b = a := by decide +kernel
  have hpos : 0 < (larger a b).toRat := by
    rw [hlarger, toRat_pos_iff]
    decide
  have hfits : FitsIn precision (larger a b).toRat := ⟨larger a b, by decide +kernel, rfl⟩
  rcases sum_eq_rounded_exactSum_iff hfar with ⟨-, -, -, hexact⟩
  exact ⟨hfar, by decide +kernel, hexact hpos hfits⟩

/-- A hundred digits with a five behind them, from which a little is taken, and minus one,
to which far less than its last digit is added. -/
theorem sum_ne_rounded_exactSum :
    let tie : Decimal := ⟨10 ^ 100 + 5, 0⟩
    let little : Decimal := ⟨-1, 2⟩
    let minusOne : Decimal := ⟨-1, 0⟩
    let least : Decimal := ⟨1, 102⟩
    (FarApart tie little ∧
      (tie.sum little).toRat ≠ ((exactSum tie little).toPrecision precision).toRat) ∧
      FarApart minusOne least ∧
      (minusOne.sum least).toRat ≠ ((exactSum minusOne least).toPrecision precision).toRat := by
  intro tie little minusOne least
  have htie : tie.sum little = ⟨10 ^ 99 + 1, -1⟩ := by decide +kernel
  have htieExact : (exactSum tie little).toPrecision precision = ⟨10 ^ 99, -1⟩ := by
    decide +kernel
  have hone : minusOne.sum least = ⟨-10 ^ 99, 99⟩ := by decide +kernel
  have honeExact : (exactSum minusOne least).toPrecision precision = ⟨1 - 10 ^ 100, 100⟩ := by
    decide +kernel
  refine ⟨⟨by decide +kernel, ?_⟩, by decide +kernel, ?_⟩
  · rw [htie, htieExact]
    norm_num [toRat]
  · rw [hone, honeExact]
    norm_num [toRat]

end Decimal
end Reckon
