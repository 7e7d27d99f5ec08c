import Mathlib.Data.Sign.Basic
import Mathlib.Tactic.FieldSimp
import Reckon.Decimal.Division
import Reckon.Proofs.Decimal.Cohort

/-!
# Quotients as numbers

A quotient is found by lifting its numerator until there are enough digits, rounding to
a whole coefficient, and bringing that to the working precision. It is exact if the exact
quotient has no more digits than are kept, and else the nearest number with so many
digits, provided that only one of the two roundings takes digits away. Both do if the
coefficient of the numerator is so long that no lifting is needed; and a numerator that
is not divided at all, or negative, is cut instead of rounded.
-/

namespace Reckon
namespace Decimal

open Numeral (tenPow)

/-!
## The nearest number with so many digits
-/

/-- The nearest number to `q` with so many significant digits, a half going away from
zero. -/
def nearest (digits : Nat) (q : ℚ) : ℚ :=
  let place := (10 : ℚ) ^ (Int.log 10 |q| + 1 - digits)
  SignType.sign q * round (|q| / place) * place

theorem roundedQuotient_eq (n : Nat) {m : Nat} (hm : 0 < m) :
    roundedQuotient n m = (2 * n + m) / (2 * m) := by
  have hrest := Nat.mod_lt n hm
  have hsplit : 2 * n + m = 2 * m * (n / m) + (2 * (n % m) + m) := by
    have := Nat.div_add_mod n m
    rw [Nat.mul_assoc]
    omega
  rw [hsplit, Nat.mul_add_div (Nat.mul_pos two_pos hm), roundedQuotient]
  congr 1
  symm
  split
  · apply Nat.div_eq_of_lt_le
    · omega
    · omega
  · apply Nat.div_eq_of_lt
    omega

theorem roundedQuotient_one (n : Nat) : roundedQuotient n 1 = n := by
  rw [roundedQuotient, Nat.mod_one, Nat.div_one]
  rfl

theorem cast_roundedQuotient (n : Nat) {m : Nat} (hm : 0 < m) :
    (roundedQuotient n m : ℚ) = round ((n : ℚ) / m) := by
  have hpos : (0 : ℚ) < m := Nat.cast_pos.mpr hm
  have hhalf : (n : ℚ) / m + 1 / 2 = ((2 * n + m : Nat) : ℚ) / (2 * m : Nat) := by
    push_cast
    field_simp
  rw [round_eq, hhalf, Rat.floor_natCast_div_natCast, roundedQuotient_eq n hm]
  rfl

theorem nearest_of_ratio {digits n m : Nat} {place : Int} {q : ℚ} (hdigits : 0 < digits)
    (hm : 0 < m) (hq : |q| = n / m * 10 ^ place) (hlow : tenPow (digits - 1) * m ≤ n)
    (hhigh : n < tenPow digits * m) :
    nearest digits q = SignType.sign q * roundedQuotient n m * 10 ^ place := by
  have hpos : (0 : ℚ) < m := Nat.cast_pos.mpr hm
  have hlead : (tenPow (digits - 1) : Nat) ≤ (n : ℚ) / m := by
    rw [le_div_iff₀ hpos]
    exact_mod_cast hlow
  have hnext : (n : ℚ) / m < (tenPow digits : Nat) := by
    rw [div_lt_iff₀ hpos]
    exact_mod_cast hhigh
  have hlog : Int.log 10 |q| = digits - 1 + place := by
    rw [hq, log_mul_zpow_ten hdigits hlead hnext]
  have hplace : Int.log 10 |q| + 1 - digits = place := by omega
  rw [nearest, hplace, hq, mul_div_cancel_right₀ _ (zpow_ten_pos place).ne',
    ← cast_roundedQuotient n hm]

/-!
## How far a numerator is lifted
-/

section Shift

variable {n m : Nat}

theorem le_mul_leastShift (hn : n ≠ 0) : m ≤ n * tenPow (leastShift n m) := by
  unfold leastShift
  dsimp only
  split
  · have hcount := Numeral.digitCount_pos n
    have hplaces : Numeral.digitCount m ≤ Numeral.digitCount n - 1 +
        (Numeral.digitCount m - Numeral.digitCount n + 1) := by omega
    calc
      m ≤ tenPow (Numeral.digitCount m) := Nat.le_of_lt (Numeral.lt_tenPow_digitCount m)
      _ ≤ tenPow (Numeral.digitCount n - 1) *
          tenPow (Numeral.digitCount m - Numeral.digitCount n + 1) := by
        rw [← Numeral.tenPow_add]
        exact Numeral.tenPow_le hplaces
      _ ≤ _ := Nat.mul_le_mul_right _ (Numeral.tenPow_digitCount_le hn)
  · next hge => exact Nat.not_lt.mp hge

theorem mul_leastShift_lt (hm : m ≠ 0) (h : leastShift n m ≠ 0) :
    n * tenPow (leastShift n m) < m * 10 := by
  unfold leastShift at h ⊢
  dsimp only at h ⊢
  split at h
  · next hlt =>
      rw [if_pos hlt, Numeral.tenPow_succ, ← Nat.mul_assoc]
      exact Nat.mul_lt_mul_of_pos_right hlt (by decide)
  · next hge =>
      have hcount : Numeral.digitCount n + (Numeral.digitCount m - Numeral.digitCount n) =
          Numeral.digitCount m - 1 + 1 := by omega
      rw [if_neg hge]
      calc
        _ < tenPow (Numeral.digitCount n) *
            tenPow (Numeral.digitCount m - Numeral.digitCount n) :=
          Nat.mul_lt_mul_of_pos_right (Numeral.lt_tenPow_digitCount n) (Numeral.tenPow_pos _)
        _ = tenPow (Numeral.digitCount m - 1) * 10 := by
          rw [← Numeral.tenPow_add, hcount, Numeral.tenPow_succ]
        _ ≤ m * 10 := Nat.mul_le_mul_right _ (Numeral.tenPow_digitCount_le hm)

/-- The number of zeros behind the numerator that the quotient is found with. -/
def places (n m : Nat) : Nat :=
  leastShift n m + (precision - Numeral.digitCount (n * tenPow (leastShift n m) / m))

theorem le_mul_places (hn : n ≠ 0) (hm : m ≠ 0) :
    tenPow (precision - 1) * m ≤ n * tenPow (places n m) := by
  have hpos := Nat.pos_of_ne_zero hm
  have hlead : n * tenPow (leastShift n m) / m ≠ 0 :=
    (Nat.div_pos (le_mul_leastShift hn) hpos).ne'
  have hdigits := (Nat.le_div_iff_mul_le hpos).mp (Numeral.tenPow_digitCount_le hlead)
  rw [places, Numeral.tenPow_add, ← Nat.mul_assoc]
  generalize Numeral.digitCount (n * tenPow (leastShift n m) / m) = count at hdigits ⊢
  have hcount : precision - 1 ≤ count - 1 + (precision - count) := by omega
  calc
    _ ≤ tenPow (count - 1) * tenPow (precision - count) * m := by
      rw [← Numeral.tenPow_add]
      exact Nat.mul_le_mul_right m (Numeral.tenPow_le hcount)
    _ = tenPow (count - 1) * m * tenPow (precision - count) := Nat.mul_right_comm _ _ _
    _ ≤ _ := Nat.mul_le_mul_right _ hdigits

theorem mul_places_lt (hm : m ≠ 0) (h : n < tenPow precision * m) :
    n * tenPow (places n m) < tenPow precision * m := by
  have hpos := Nat.pos_of_ne_zero hm
  have hfew : n * tenPow (leastShift n m) < tenPow precision * m := by
    by_cases hshift : leastShift n m = 0
    · rw [hshift, Numeral.tenPow_zero, Nat.mul_one]
      exact h
    · have hten : 10 ≤ tenPow precision := by decide
      rw [Nat.mul_comm (tenPow precision)]
      exact Nat.lt_of_lt_of_le (mul_leastShift_lt hm hshift) (Nat.mul_le_mul_left m hten)
  have hcount := Numeral.digitCount_le_of_lt (by decide) ((Nat.div_lt_iff_lt_mul hpos).mpr hfew)
  have hdigits := (Nat.div_lt_iff_lt_mul hpos).mp
    (Numeral.lt_tenPow_digitCount (n * tenPow (leastShift n m) / m))
  rw [places, Numeral.tenPow_add, ← Nat.mul_assoc]
  generalize Numeral.digitCount (n * tenPow (leastShift n m) / m) = count at hcount hdigits ⊢
  calc
    _ < tenPow count * m * tenPow (precision - count) :=
      Nat.mul_lt_mul_of_pos_right hdigits (Numeral.tenPow_pos _)
    _ = tenPow precision * m := by
      rw [Nat.mul_right_comm, ← Numeral.tenPow_add, Nat.add_sub_cancel' hcount]

end Shift

/-!
## Numbers with so many digits
-/

theorem sign_toRat (d : Decimal) : (SignType.sign d.toRat : ℚ) = d.coefficient.sign := by
  rw [toRat, sign_mul, sign_intCast, sign_pos (zpow_ten_pos _), mul_one, Int.sign_eq_sign,
    SignType.intCast_cast]

/-- Whether a number can be written with so many digits. -/
def FitsIn (digits : Nat) (q : ℚ) : Prop :=
  exists d : Decimal, d.digitCount ≤ digits ∧ d.toRat = q

section Fits

variable {digits : Nat} {d : Decimal}

theorem fitsIn_zero (hdigits : 0 < digits) : FitsIn digits 0 := by
  refine ⟨ofInt 0, ?_, toRat_eq_zero_iff.mpr rfl⟩
  rw [digitCount, Numeral.digitCount_of_lt (by decide)]
  exact hdigits

theorem toRat_toPrecision_of_fitsIn (hdigits : 0 < digits) (h : FitsIn digits d.toRat) :
    (d.toPrecision digits).toRat = d.toRat := by
  rcases h with ⟨e, hcount, he⟩
  by_cases hzero : d.coefficient = 0
  · have hsign := sign_toPrecision hdigits d
    rw [hzero, Int.sign_zero, Int.sign_eq_zero_iff_zero] at hsign
    rw [toRat_eq_zero_iff.mpr hzero, toRat_eq_zero_iff.mpr hsign]
  · have hne := mt (coefficient_eq_zero_congr he).mp hzero
    rw [← toPrecision_congr he hne, toPrecision_of_le hcount, toRat_addZeros, he]

theorem fitsIn_of_natAbs_le (hdigits : 0 < digits) (h : d.coefficient.natAbs ≤ tenPow digits) :
    FitsIn digits d.toRat := by
  -- A carry into one more digit does no harm.
  rcases Nat.lt_or_eq_of_le h with hlt | heq
  · exact ⟨d, Numeral.digitCount_le_of_lt hdigits hlt, rfl⟩
  · have hcoefficient : (d.coefficient : ℚ) = d.coefficient.sign * 10 ^ (digits : Int) := by
      rw [← cast_tenPow, ← heq, ← Int.cast_natCast, ← Int.cast_mul, Int.sign_mul_natAbs]
    have hscale : -(d.scale - digits) = (digits : Int) + -d.scale := by omega
    have hsmall : d.coefficient.sign.natAbs < 10 := by
      have := Int.sign_trichotomy d.coefficient
      omega
    refine ⟨⟨d.coefficient.sign, d.scale - digits⟩, ?_, ?_⟩
    · rw [digitCount, Numeral.digitCount_of_lt hsmall]
      exact hdigits
    · rw [toRat, toRat, hscale, zpow_ten_add, hcoefficient, mul_assoc]

theorem nearest_of_fitsIn (hdigits : 0 < digits) {q : ℚ} (h : FitsIn digits q) :
    nearest digits q = q := by
  rcases h with ⟨d, hcount, rfl⟩
  by_cases hzero : d.coefficient = 0
  · rw [toRat_eq_zero_iff.mpr hzero, nearest, sign_zero, SignType.coe_zero, zero_mul, zero_mul]
  · rcases mul_tenPow_bounds hzero hcount with ⟨hlow, hhigh⟩
    have hplace : (digits - d.digitCount : Nat) + -(d.scale + (digits - d.digitCount : Nat)) =
        -d.scale := by omega
    have habs : |d.toRat| =
        ((d.coefficient.natAbs * tenPow (digits - d.digitCount) : Nat) : ℚ) *
          10 ^ (-(d.scale + (digits - d.digitCount : Nat))) := by
      rw [abs_toRat, Nat.cast_mul, cast_tenPow, mul_assoc, ← zpow_ten_add, hplace]
    have hratio := habs
    rw [← div_one ((_ : Nat) : ℚ), ← Nat.cast_one] at hratio
    rw [nearest_of_ratio hdigits one_pos hratio ((Nat.mul_one _).trans_le hlow)
      (hhigh.trans_eq (Nat.mul_one _).symm), roundedQuotient_one, mul_assoc, ← habs,
      sign_mul_abs]

theorem coefficient_dropDigits_of_pos (h : 0 < d.coefficient) (count : Nat) :
    (d.dropDigits count).coefficient =
      roundedQuotient d.coefficient.natAbs (tenPow count) := by
  rcases coefficient_dropDigits_of_nonneg h.le count with ⟨unit, hcut, hle, hunit⟩
  rw [hcut, roundedQuotient]
  split
  · next hup => rw [hunit.mpr ⟨h, hup⟩]
  · next hdown =>
      have hzero : unit = 0 := by
        have hne : unit ≠ 1 := fun hone => hdown (hunit.mp hone).right
        omega
      rw [hzero]

theorem toRat_toPrecision_of_pos (hdigits : 0 < digits) (hpos : 0 < d.coefficient)
    (hmany : digits < d.digitCount) :
    (d.toPrecision digits).toRat = nearest digits d.toRat := by
  rcases div_tenPow_bounds hdigits hmany with ⟨hlow, hhigh⟩
  have hcut := Numeral.tenPow_pos (d.digitCount - digits)
  have hscale : (d.dropDigits (d.digitCount - digits)).scale =
      d.scale - (d.digitCount - digits : Nat) := rfl
  have hplace : -d.scale = -(d.scale - (d.digitCount - digits : Nat)) -
      (d.digitCount - digits : Nat) := by omega
  have habs : |d.toRat| = (d.coefficient.natAbs : ℚ) / (tenPow (d.digitCount - digits) : Nat) *
      10 ^ (-(d.scale - (d.digitCount - digits : Nat))) := by
    rw [abs_toRat, cast_tenPow]
    conv_lhs => rw [hplace, zpow_sub₀ (by decide)]
    ring
  rw [toPrecision_of_lt hmany, toRat, coefficient_dropDigits_of_pos hpos, hscale,
    nearest_of_ratio hdigits hcut habs ((Nat.le_div_iff_mul_le hcut).mp hlow)
      ((Nat.div_lt_iff_lt_mul hcut).mp hhigh),
    sign_pos (toRat_pos_iff.mpr hpos), SignType.coe_one, one_mul, Int.cast_natCast]

end Fits

/-!
## Quotients and their magnitudes
-/

section Quotient

variable {a b : Decimal}

theorem quotient_eq (ha : a.coefficient ≠ 0) (hunit : b.isUnit = false) :
    quotient a b =
      let n := a.coefficient.natAbs
      let m := b.coefficient.natAbs
      ⟨a.coefficient.sign * b.coefficient.sign *
          roundedQuotient (n * tenPow (places n m)) m,
        a.scale - b.scale + places n m⟩ := by
  have hzero : a.isZero = false := beq_eq_false_iff_ne.mpr ha
  rw [quotient, hzero, hunit]
  simp only [Bool.or_self, Bool.false_eq_true, if_false, places, Int.natCast_add, Int.add_assoc]

theorem sign_div_toRat (a b : Decimal) :
    (SignType.sign (a.toRat / b.toRat) : ℚ) =
      (a.coefficient.sign * b.coefficient.sign : Int) := by
  have hsign : SignType.sign (a.toRat / b.toRat) =
      SignType.sign a.toRat * SignType.sign b.toRat :=
    map_div₀ (signHom (α := ℚ)) a.toRat b.toRat
  rw [hsign, SignType.coe_mul, sign_toRat, sign_toRat, Int.cast_mul]

theorem abs_div_toRat (a b : Decimal) (lift : Nat) :
    |a.toRat / b.toRat| = ((a.coefficient.natAbs * tenPow lift : Nat) : ℚ) /
      b.coefficient.natAbs * 10 ^ (-(a.scale - b.scale + lift)) := by
  have hplace : -(a.scale - b.scale + lift) = -a.scale - -b.scale - lift := by omega
  have hlift := (zpow_ten_pos lift).ne'
  rw [abs_div, abs_toRat, abs_toRat, hplace, zpow_sub₀ (by decide), zpow_sub₀ (by decide),
    Nat.cast_mul, cast_tenPow]
  field_simp

theorem toRat_quotient (ha : a.coefficient ≠ 0) (hunit : b.isUnit = false) :
    let lift := places a.coefficient.natAbs b.coefficient.natAbs
    (quotient a b).toRat = SignType.sign (a.toRat / b.toRat) *
      roundedQuotient (a.coefficient.natAbs * tenPow lift) b.coefficient.natAbs *
        10 ^ (-(a.scale - b.scale + lift)) := by
  intro lift
  rw [quotient_eq ha hunit, toRat, sign_div_toRat, Int.cast_mul, Int.cast_natCast]

theorem quotient_of_eq_zero (ha : a.coefficient = 0) : quotient a b = a := by
  have hzero : a.isZero = true := beq_iff_eq.mpr ha
  rw [quotient, hzero, Bool.true_or, if_pos rfl]

theorem quotient_of_isUnit (hunit : b.isUnit = true) : quotient a b = a := by
  rw [quotient, hunit, Bool.or_true, if_pos rfl]

theorem scale_le_of_digitCount_le {d : Decimal} {lift : Nat}
    (hlow : tenPow (precision - 1) * b.coefficient.natAbs ≤ a.coefficient.natAbs * tenPow lift)
    (hb : b.coefficient ≠ 0) (hcount : d.digitCount ≤ precision)
    (hd : d.toRat = a.toRat / b.toRat) : d.scale ≤ a.scale - b.scale + lift := by
  -- A quotient with no more digits than are kept does not need more places than the numerator is
  -- lifted by.
  have hm : (0 : ℚ) < b.coefficient.natAbs := Nat.cast_pos.mpr (Int.natAbs_pos.mpr hb)
  have hdigits : (d.coefficient.natAbs : ℚ) < (tenPow precision : Nat) :=
    Nat.cast_lt.mpr ((Numeral.lt_tenPow_digitCount _).trans_le (Numeral.tenPow_le hcount))
  have hratio : ((tenPow (precision - 1) : Nat) : ℚ) ≤
      ((a.coefficient.natAbs * tenPow lift : Nat) : ℚ) / b.coefficient.natAbs := by
    rw [le_div_iff₀ hm]
    exact_mod_cast hlow
  have hlt : (10 : ℚ) ^ ((precision - 1 : Nat) + -(a.scale - b.scale + lift)) <
      10 ^ (precision + -d.scale) := by
    rw [zpow_ten_add, zpow_ten_add, ← cast_tenPow, ← cast_tenPow]
    calc
      _ ≤ |a.toRat / b.toRat| := by
        rw [abs_div_toRat a b lift]
        exact mul_le_mul_of_nonneg_right hratio (zpow_ten_pos _).le
      _ = (d.coefficient.natAbs : ℚ) * 10 ^ (-d.scale) := by rw [← hd, abs_toRat]
      _ < _ := mul_lt_mul_of_pos_right hdigits (zpow_ten_pos _)
  rw [zpow_lt_zpow_iff_right₀ (by decide)] at hlt
  have hprecision : ((precision - 1 : Nat) : Int) = precision - 1 := rfl
  omega

/-- A quotient with no more digits than are kept is exact. -/
theorem toRat_quotient_of_fitsIn (hb : b.coefficient ≠ 0)
    (h : FitsIn precision (a.toRat / b.toRat)) :
    (quotient a b).toRat = a.toRat / b.toRat := by
  by_cases ha : a.coefficient = 0
  · rw [quotient_of_eq_zero ha, toRat_eq_zero_iff.mpr ha, zero_div]
  · cases hunit : b.isUnit with
    | true => rw [quotient_of_isUnit hunit, toRat_of_isUnit hunit, div_one]
    | false =>
        rcases h with ⟨d, hcount, hd⟩
        have hm := Int.natAbs_ne_zero.mpr hb
        have hlow := le_mul_places (Int.natAbs_ne_zero.mpr ha) hm
        have hscale := scale_le_of_digitCount_le hlow hb hcount hd
        have habs := abs_div_toRat a b (places a.coefficient.natAbs b.coefficient.natAbs)
        rw [toRat_quotient ha hunit]
        generalize places a.coefficient.natAbs b.coefficient.natAbs = lift at hscale habs ⊢
        have hplace : -d.scale = ((a.scale - b.scale + lift - d.scale).toNat : Int) +
            -(a.scale - b.scale + lift) := by omega
        have hwhole : |a.toRat / b.toRat| =
            ((d.coefficient.natAbs * tenPow (a.scale - b.scale + lift - d.scale).toNat : Nat) :
              ℚ) * 10 ^ (-(a.scale - b.scale + lift)) := by
          rw [← hd, abs_toRat, hplace, zpow_ten_add, ← cast_tenPow, Nat.cast_mul, mul_assoc]
        have hratio := mul_right_cancel₀ (zpow_ten_pos _).ne' (habs.symm.trans hwhole)
        rw [cast_roundedQuotient _ (Nat.pos_of_ne_zero hm), hratio, round_natCast,
          Int.cast_natCast, mul_assoc, ← hwhole, sign_mul_abs]

/-!
## Rounding a quotient once or twice

The magnitude of a quotient is rounded to a whole coefficient, and the quotient is then
brought to the working precision. This rounds a second time where the coefficient is
still too long.
-/

theorem roundedQuotient_le {n m limit : Nat} (hm : 0 < m) (h : n < limit * m) :
    roundedQuotient n m ≤ limit := by
  have hlt := (Nat.div_lt_iff_lt_mul hm).mpr h
  rw [roundedQuotient]
  split
  · exact hlt
  · exact Nat.le_of_lt hlt

theorem natAbs_coefficient_quotient (ha : a.coefficient ≠ 0) (hb : b.coefficient ≠ 0)
    (hunit : b.isUnit = false) :
    (quotient a b).coefficient.natAbs =
      roundedQuotient
        (a.coefficient.natAbs * tenPow (places a.coefficient.natAbs b.coefficient.natAbs))
        b.coefficient.natAbs := by
  rw [quotient_eq ha hunit]
  dsimp only
  rw [Int.natAbs_mul, Int.natAbs_mul, Int.natAbs_natCast, Int.natAbs_sign_of_ne_zero ha,
    Int.natAbs_sign_of_ne_zero hb, Nat.one_mul]

theorem natAbs_coefficient_quotient_le (ha : a.coefficient ≠ 0) (hb : b.coefficient ≠ 0)
    (hunit : b.isUnit = false)
    (hfew : a.coefficient.natAbs < tenPow precision * b.coefficient.natAbs) :
    (quotient a b).coefficient.natAbs ≤ tenPow precision := by
  have hm := Int.natAbs_ne_zero.mpr hb
  rw [natAbs_coefficient_quotient ha hb hunit]
  exact roundedQuotient_le (Nat.pos_of_ne_zero hm) (mul_places_lt hm hfew)

/-- Whether a quotient is rounded at most once: it has no more digits than are kept, or
its numerator is not so long that the whole part alone has more, or there is no division
and the numerator is rounded to the nearest. -/
def RoundsOnce (a b : Decimal) : Prop :=
  FitsIn precision (a.toRat / b.toRat) ∨
    if b.isUnit then 0 < a.coefficient
    else a.coefficient.natAbs < tenPow precision * b.coefficient.natAbs

/-- A quotient that is rounded once is the nearest number to the exact quotient. -/
theorem toRat_toPrecision_quotient (hb : b.coefficient ≠ 0) (h : RoundsOnce a b) :
    (toPrecision precision (quotient a b)).toRat = nearest precision (a.toRat / b.toRat) := by
  have hkept : 0 < precision := by decide
  by_cases hfits : FitsIn precision (a.toRat / b.toRat)
  · have hexact := toRat_quotient_of_fitsIn hb hfits
    rw [toRat_toPrecision_of_fitsIn hkept (hexact.symm ▸ hfits), hexact,
      nearest_of_fitsIn hkept hfits]
  · have hmany := h.resolve_left hfits
    cases hunit : b.isUnit with
    | true =>
        rw [hunit, if_pos rfl] at hmany
        rw [toRat_of_isUnit hunit, div_one] at hfits ⊢
        have hlong : precision < a.digitCount := not_le.mp fun hle => hfits ⟨a, hle, rfl⟩
        rw [quotient_of_isUnit hunit, toRat_toPrecision_of_pos hkept hmany hlong]
    | false =>
        rw [hunit, if_neg Bool.false_ne_true] at hmany
        have ha : a.coefficient ≠ 0 := by
          intro ha
          rw [toRat_eq_zero_iff.mpr ha, zero_div] at hfits
          exact hfits (fitsIn_zero hkept)
        have hm := Int.natAbs_ne_zero.mpr hb
        have hshort := fitsIn_of_natAbs_le hkept
          (natAbs_coefficient_quotient_le ha hb hunit hmany)
        rw [toRat_toPrecision_of_fitsIn hkept hshort, toRat_quotient ha hunit,
          nearest_of_ratio hkept (Nat.pos_of_ne_zero hm) (abs_div_toRat a b _)
            (le_mul_places (Int.natAbs_ne_zero.mpr ha) hm) (mul_places_lt hm hmany)]

theorem toRat_div?_congr {a' b' : Decimal} (ha : a.toRat = a'.toRat) (hb : b.toRat = b'.toRat)
    (h : RoundsOnce a b) (h' : RoundsOnce a' b') :
    (div? a b).map toRat = (div? a' b').map toRat := by
  rw [div?, div?, isZero_congr hb]
  split
  · rfl
  · next hzero =>
      have hb' : b'.coefficient ≠ 0 := fun heq => hzero (beq_iff_eq.mpr heq)
      have hbne := mt (coefficient_eq_zero_congr hb).mp hb'
      rw [Option.map_some, Option.map_some, toRat_toPrecision_quotient hbne h,
        toRat_toPrecision_quotient hb' h', ha, hb]

end Quotient

end Decimal
end Reckon
