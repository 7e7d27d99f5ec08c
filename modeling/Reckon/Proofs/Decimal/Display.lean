import Mathlib.Data.Sign.Defs
import Reckon.Decimal.Scientific
import Reckon.Proofs.Decimal.Notation

/-!
# How decimals are shown

A decimal is rounded to sixteen digits and written with these and an exponent.
Where rounding carries into a new first digit there are seventeen, the last of
which is a zero that is not written. The text is always a number in scientific
notation, and as a decimal of its own that number is shown by the same text.
-/

namespace Reckon

open Numeral (tenPow digits lastDigits signed signChars)

namespace Decimal

/-!
## What is shown
-/

/-- The sign, the sixteen digits and the exponent that a decimal is shown with. They
make the number that it is rounded to. -/
structure Shows (d : Decimal) (negative : Bool) (mantissa : Nat) (exponent : Int) : Prop where
  isNegative_eq : d.shown.isNegative = negative
  digits_eq : d.mantissaDigits = lastDigits shownDigits mantissa
  exponent_eq : d.shownExponent = exponent
  toRat_eq : d.shown.toRat = signed negative mantissa * 10 ^ (exponent - 15)

theorem Shows.chars_eq {d : Decimal} {negative : Bool} {mantissa : Nat} {exponent : Int}
    (h : Shows d negative mantissa exponent) :
    d.chars = signChars negative ++ (lastDigits shownDigits mantissa).take 1 ++
      '.' :: (lastDigits shownDigits mantissa).drop 1 ++ exponentChars exponent := by
  rw [chars, h.isNegative_eq, h.digits_eq, h.exponent_eq]
  rfl

theorem sign_shown (d : Decimal) : d.shown.coefficient.sign = d.coefficient.sign :=
  sign_toPrecision (by decide) d

theorem shown_neg_iff (d : Decimal) : d.shown.coefficient < 0 <-> d.coefficient < 0 := by
  rw [← Int.sign_eq_neg_one_iff_neg, sign_shown, Int.sign_eq_neg_one_iff_neg]

theorem shown_pos_iff (d : Decimal) : 0 < d.shown.coefficient <-> 0 < d.coefficient := by
  rw [← Int.sign_eq_one_iff_pos, sign_shown, Int.sign_eq_one_iff_pos]

theorem shown_eq_zero_iff (d : Decimal) : d.shown.coefficient = 0 <-> d.coefficient = 0 := by
  rw [← Int.sign_eq_zero_iff_zero, sign_shown, Int.sign_eq_zero_iff_zero]

theorem shows_of_eq_zero {d : Decimal} (h : d.coefficient = 0) : Shows d false 0 0 := by
  have hshown := d.shown_eq_zero_iff.mpr h
  have hzero : d.shown.isZero = true := by
    rw [isZero, hshown]
    rfl
  have hdigit : digits 0 = ['0'] := by
    rw [Numeral.digits_eq_toDigits]
    rfl
  constructor
  · rw [isNegative, hshown]
    rfl
  · rw [mantissaDigits, hshown, Int.natAbs_zero, hdigit]
    rfl
  · rw [shownExponent, if_pos hzero]
  · rw [toRat, hshown, Int.cast_zero, zero_mul]
    exact (zero_mul _).symm

theorem shows_of_natAbs_shown {d : Decimal} {mantissa zeros : Nat}
    (hlow : tenPow 15 ≤ mantissa) (hhigh : mantissa < tenPow 16)
    (h : d.shown.coefficient.natAbs = mantissa * tenPow zeros) :
    Shows d d.shown.isNegative mantissa (15 + zeros - d.shown.scale) := by
  have hpos := Numeral.tenPow_pos zeros
  have hcount : Numeral.digitCount d.shown.coefficient.natAbs = 15 + zeros + 1 := by
    rw [h]
    apply Numeral.digitCount_eq_of_le_of_lt
    · rw [Numeral.tenPow_add]
      exact Nat.mul_le_mul_right _ hlow
    · have hwidth : 15 + zeros + 1 = 16 + zeros := by omega
      rw [hwidth, Numeral.tenPow_add]
      exact Nat.mul_lt_mul_of_pos_right hhigh hpos
  -- the digits behind the sixteenth are those that `take` cuts off
  have hdigits : digits d.shown.coefficient.natAbs =
      lastDigits shownDigits mantissa ++ lastDigits zeros (mantissa * tenPow zeros) := by
    have hwidth : 15 + zeros + 1 = shownDigits + zeros := by
      rw [shownDigits]
      omega
    rw [digits, hcount, hwidth, Numeral.padded_eq, h, Numeral.lastDigits_add,
      Nat.mul_div_cancel _ hpos]
  have hlength := Numeral.lastDigits_length shownDigits mantissa
  have hzero : d.shown.isZero = false := by
    rw [isZero, beq_eq_false_iff_ne]
    intro hcoefficient
    rw [hcoefficient, Int.natAbs_zero] at h
    have := Nat.mul_pos (Nat.lt_of_lt_of_le (Numeral.tenPow_pos 15) hlow) hpos
    omega
  constructor
  · rfl
  · rw [mantissaDigits, hdigits, List.take_left' hlength, List.rightpad, hlength,
      Nat.sub_self, List.replicate_zero, List.append_nil]
  · rw [shownExponent, hzero, leadingExponent, Decimal.digitCount, hcount]
    simp only [Bool.false_eq_true, if_false]
    omega
  · have hcoefficient : d.shown.coefficient =
        signed d.shown.isNegative mantissa * tenPow zeros := by
      rw [← Numeral.signed_mul, ← h]
      exact (Numeral.signed_natAbs _).symm
    have hexponent : 15 + (zeros : Int) - d.shown.scale - 15 = zeros + -d.shown.scale := by
      omega
    rw [toRat, hcoefficient, hexponent, zpow_ten_add, ← cast_tenPow, Int.cast_mul,
      Int.cast_natCast, mul_assoc]

theorem isNegative_shown (d : Decimal) : d.shown.isNegative = decide (d.coefficient < 0) := by
  rw [isNegative, decide_eq_decide]
  exact d.shown_neg_iff

theorem exists_natAbs_shown {d : Decimal} (h : d.coefficient ≠ 0) :
    exists mantissa zeros : Nat, tenPow 15 ≤ mantissa ∧ mantissa < tenPow 16 ∧ zeros ≤ 1 ∧
      d.shown.coefficient.natAbs = mantissa * tenPow zeros := by
  have hbounds : tenPow 15 ≤ d.shown.coefficient.natAbs ∧
      d.shown.coefficient.natAbs ≤ tenPow 16 :=
    natAbs_toPrecision (by decide : 0 < shownDigits) h
  rcases Nat.lt_or_eq_of_le hbounds.right with hlt | hcarry
  · exact ⟨_, 0, hbounds.left, hlt, Nat.zero_le 1, (Nat.mul_one _).symm⟩
  · exact ⟨tenPow 15, 1, Nat.le_refl _, by decide, Nat.le_refl 1, hcarry⟩

/-- A decimal that is not zero is shown with a first digit that is not zero, and with
the exponent of its own first digit or, after a carry, one more. -/
theorem exists_shows {d : Decimal} (h : d.coefficient ≠ 0) :
    exists (mantissa : Nat) (exponent : Int), Shows d (d.coefficient < 0) mantissa exponent ∧
      tenPow 15 ≤ mantissa ∧ mantissa < tenPow 16 ∧
      d.leadingExponent ≤ exponent ∧ exponent ≤ d.leadingExponent + 1 := by
  rcases exists_natAbs_shown h with ⟨mantissa, zeros, hlow, hhigh, hzeros, hnatAbs⟩
  have hshows := shows_of_natAbs_shown hlow hhigh hnatAbs
  rw [isNegative_shown] at hshows
  have hscale : d.shown.scale = (16 : Nat) - 1 - d.leadingExponent :=
    scale_toPrecision shownDigits d
  refine ⟨mantissa, _, hshows, hlow, hhigh, ?_, ?_⟩
  · omega
  · omega

theorem shows_signed {negative : Bool} {mantissa : Nat} (hlow : tenPow 15 ≤ mantissa)
    (hhigh : mantissa < tenPow 16) (exponent : Int) :
    Shows ⟨signed negative mantissa, 15 - exponent⟩ negative mantissa exponent := by
  have hpos : 0 < mantissa := Nat.lt_of_lt_of_le (Numeral.tenPow_pos 15) hlow
  have hcount : (Decimal.mk (signed negative mantissa) (15 - exponent)).digitCount =
      shownDigits := by
    rw [Decimal.digitCount, Numeral.natAbs_signed]
    exact Numeral.digitCount_eq_of_le_of_lt hlow hhigh
  have hshown : (Decimal.mk (signed negative mantissa) (15 - exponent)).shown =
      ⟨signed negative mantissa, 15 - exponent⟩ := by
    rw [shown, toPrecision_of_le (Nat.le_of_eq hcount), hcount, Nat.sub_self, addZeros]
    simp
  have hnatAbs : (Decimal.mk (signed negative mantissa) (15 - exponent)).shown.coefficient.natAbs =
      mantissa * tenPow 0 := by
    rw [hshown, Numeral.natAbs_signed, Numeral.tenPow_zero, Nat.mul_one]
  have hnegative : (Decimal.mk (signed negative mantissa) (15 - exponent)).isNegative =
      negative := by
    rw [isNegative, Bool.eq_iff_iff, decide_eq_true_eq, Numeral.signed_neg_iff hpos]
  have hexponent : 15 + ((0 : Nat) : Int) - (15 - exponent) = exponent := by omega
  have hshows := shows_of_natAbs_shown hlow hhigh hnatAbs
  rw [hshown, hexponent, hnegative] at hshows
  exact hshows

/-!
## How far it is from the decimal
-/

theorem sign_toRat_shown (d : Decimal) :
    SignType.sign d.shown.toRat = SignType.sign d.toRat := by
  rcases lt_trichotomy d.coefficient 0 with hneg | hzero | hpos
  · rw [sign_neg (toRat_neg_iff.mpr hneg),
      sign_neg (toRat_neg_iff.mpr (d.shown_neg_iff.mpr hneg))]
  · rw [toRat_eq_zero_iff.mpr hzero, toRat_eq_zero_iff.mpr (d.shown_eq_zero_iff.mpr hzero)]
  · rw [sign_pos (toRat_pos_iff.mpr hpos),
      sign_pos (toRat_pos_iff.mpr (d.shown_pos_iff.mpr hpos))]

theorem abs_shown_sub_lt (d : Decimal) :
    |d.shown.toRat - d.toRat| < 10 ^ (Int.log 10 |d.toRat| - 15) ∧
      (0 < d.toRat -> 2 * |d.shown.toRat - d.toRat| ≤ 10 ^ (Int.log 10 |d.toRat| - 15)) := by
  by_cases hzero : d.coefficient = 0
  · have hd : d.toRat = 0 := toRat_eq_zero_iff.mpr hzero
    have hshown : d.shown.toRat = 0 := toRat_eq_zero_iff.mpr (d.shown_eq_zero_iff.mpr hzero)
    rw [hd, hshown, sub_self, abs_zero]
    exact ⟨zpow_ten_pos _, fun h => absurd h (lt_irrefl 0)⟩
  · have hunit : d.leadingExponent + 1 - (shownDigits : Nat) = Int.log 10 |d.toRat| - 15 := by
      rw [leadingExponent_eq_log hzero, shownDigits]
      omega
    rw [← hunit]
    exact abs_toPrecision_sub_lt shownDigits d

/-!
## The form of what is shown
-/

/-- What is shown of a decimal is a number in scientific notation, which has the same
sign, digits and exponent. -/
theorem Shows.exists_scientific {d : Decimal} {negative : Bool} {mantissa : Nat}
    {exponent : Int} (h : Shows d negative mantissa exponent) (hhigh : mantissa < tenPow 16) :
    exists s : Scientific, d.chars = s.chars ∧ s.negative = negative ∧
      s.significand = mantissa ∧ s.power = exponent := by
  have hlength := Numeral.lastDigits_length shownDigits mantissa
  have hread : Nat.ofDigitChars 10 (lastDigits shownDigits mantissa) 0 = mantissa :=
    (Numeral.ofDigitChars_lastDigits shownDigits mantissa).trans (Nat.mod_eq_of_lt hhigh)
  have hdigit : forall c, c ∈ lastDigits shownDigits mantissa -> c.isDigit = true :=
    fun _ => Numeral.isDigit_of_mem_lastDigits
  have hchars := h.chars_eq
  rcases hparts : lastDigits shownDigits mantissa with _ | ⟨lead, fraction⟩
  · rw [hparts] at hlength
    cases hlength
  · rw [hparts] at hlength hread hdigit hchars
    refine ⟨{
      negative := negative
      lead := lead
      fraction := fraction
      exponentNegative := exponent < 0
      exponent := (digits exponent.natAbs).leftpad 2 '0'
      isDigit_lead := hdigit lead List.mem_cons_self
      isDigit_fraction := fun c hc => hdigit c (List.mem_cons_of_mem lead hc)
      length_fraction := Nat.succ_injective hlength
      isDigit_exponent := ?_
      length_exponent := ?_ }, ?_, rfl, hread, ?_⟩
    · intro c hc
      rw [List.leftpad, List.mem_append] at hc
      rcases hc with hzero | hmem
      · rw [List.eq_of_mem_replicate hzero]
        rfl
      · exact Numeral.isDigit_of_mem_digits hmem
    · rw [List.length_leftpad]
      exact Nat.le_max_left 2 _
    · rw [hchars, Scientific.chars, Scientific.magnitudeChars, Scientific.exponentChars,
        exponentChars]
      simp
    · show signed (exponent < 0) (Nat.ofDigitChars 10
        (List.replicate _ '0' ++ digits exponent.natAbs) 0) = exponent
      rw [Numeral.ofDigitChars_zeros_append, Numeral.ofDigitChars_digits,
        Numeral.signed_natAbs]

/-- A number in scientific notation that spells a decimal: it is the text of the decimal,
and of itself as a decimal, it denotes the decimal rounded to the digits shown, and its
exponent is that of the first digit or, after a carry, one more. -/
structure SpelledBy (d : Decimal) (s : Scientific) : Prop where
  chars_eq : d.chars = s.chars
  chars_decimal : s.decimal.chars = s.chars
  toRat_eq : s.toRat = d.shown.toRat
  negative_iff : s.negative = true <-> d.coefficient < 0
  lead_eq_zero_iff : s.lead = '0' <-> d.coefficient = 0
  power_eq_zero : d.coefficient = 0 -> s.power = 0
  power_near : d.coefficient ≠ 0 ->
    d.leadingExponent ≤ s.power ∧ s.power ≤ d.leadingExponent + 1

theorem Shows.exists_spelledBy {d : Decimal} {negative : Bool} {mantissa : Nat}
    {exponent : Int} (h : Shows d negative mantissa exponent)
    (hagain : Shows ⟨signed negative mantissa, 15 - exponent⟩ negative mantissa exponent)
    (hhigh : mantissa < tenPow 16) (hnegative : negative = true <-> d.coefficient < 0)
    (hlow : mantissa < tenPow 15 <-> d.coefficient = 0)
    (hzero : d.coefficient = 0 -> exponent = 0)
    (hnear : d.coefficient ≠ 0 ->
      d.leadingExponent ≤ exponent ∧ exponent ≤ d.leadingExponent + 1) :
    exists s, SpelledBy d s := by
  rcases h.exists_scientific hhigh with ⟨s, hchars, rfl, rfl, rfl⟩
  refine ⟨s, hchars, ?_, h.toRat_eq.symm, hnegative, ?_, hzero, hnear⟩
  · rw [← hchars, h.chars_eq]
    exact hagain.chars_eq
  · rw [s.lead_eq_zero_iff, hlow]

theorem exists_spelledBy (d : Decimal) : exists s, SpelledBy d s := by
  by_cases h : d.coefficient = 0
  · have hnegative : false = true <-> d.coefficient < 0 := by
      rw [h]
      decide
    exact (shows_of_eq_zero h).exists_spelledBy (shows_of_eq_zero rfl) (Numeral.tenPow_pos 16)
      hnegative (iff_of_true (Numeral.tenPow_pos 15) h) (fun _ => rfl) fun hne => absurd h hne
  · rcases exists_shows h with ⟨mantissa, exponent, hshows, hlow, hhigh, hnear⟩
    exact hshows.exists_spelledBy (shows_signed hlow hhigh exponent) hhigh decide_eq_true_iff
      (iff_of_false (Nat.not_lt.mpr hlow) h) (fun hzero => absurd hzero h) fun _ => hnear

end Decimal
end Reckon
