import Reckon.Decimal.Numeral
import Reckon.Proofs.Decimal.Rounding
import Reckon.Proofs.Token.Numbers

/-!
# Scientific notation as a form

A number in scientific notation is a sign, a digit, a point, fifteen digits and an
exponent of at least two digits with a sign of its own. A text of this form is one
number to a scanner, and is read as the decimal of its sixteen digits.
-/

namespace Reckon

open Numeral (tenPow signed signChars pointChars isPlaceChar)

namespace Decimal

/-!
## Exponents
-/

theorem digitsWithin_of_le (overflow : Fault) {limit n : Nat} {cs : List Char}
    (hdigits : forall c, c ∈ cs -> c.isDigit = true)
    (h : Nat.ofDigitChars 10 cs n ≤ limit) :
    digitsWithin limit overflow n cs = .ok (Nat.ofDigitChars 10 cs n) := by
  induction cs generalizing n with
  | nil => rfl
  | cons c cs ih =>
      rw [Nat.ofDigitChars_cons] at h ⊢
      have hnext : 10 * n + (c.toNat - '0'.toNat) ≤ limit := by
        apply Nat.le_trans _ h
        rw [Nat.ofDigitChars_eq_ofDigitChars_zero]
        exact Nat.le_trans (Nat.le_mul_of_pos_left _ (Numeral.tenPow_pos cs.length))
          (Nat.le_add_right _ _)
      have hrest : forall d, d ∈ cs -> d.isDigit = true :=
        fun d hd => hdigits d (List.mem_cons_of_mem c hd)
      simp only [digitsWithin, hdigits c List.mem_cons_self, if_true,
        Nat.not_lt.mpr hnext, if_false]
      exact ih hrest h

theorem exponentOfChars_signed (negative : Bool) {cs : List Char} (hne : cs ≠ [])
    (hdigits : forall c, c ∈ cs -> c.isDigit = true)
    (h : Nat.ofDigitChars 10 cs 0 < exponentRange) :
    exponentOfChars ((if negative then '-' else '+') :: cs) =
      .ok (signed negative (Nat.ofDigitChars 10 cs 0)) := by
  rcases List.exists_cons_of_ne_nil hne with ⟨c, rest, rfl⟩
  cases negative with
  | true =>
      have hread := digitsWithin_of_le .exponentTooSmall hdigits
        (Nat.le_of_lt h)
      show (digitsWithin exponentRange .exponentTooSmall 0 (c :: rest)).map _ = _
      rw [hread]
      rfl
  | false =>
      have hread := digitsWithin_of_le .exponentTooLarge hdigits
        (Nat.le_sub_one_of_lt h)
      show (digitsWithin (exponentRange - 1) .exponentTooLarge 0 (c :: rest)).map _ = _
      rw [hread]
      rfl

end Decimal

/-!
## The form
-/

/-- The parts of a number in scientific notation. -/
structure Scientific where
  negative : Bool
  lead : Char
  fraction : List Char
  exponentNegative : Bool
  exponent : List Char
  isDigit_lead : lead.isDigit = true
  isDigit_fraction : forall c, c ∈ fraction -> c.isDigit = true
  length_fraction : fraction.length = 15
  isDigit_exponent : forall c, c ∈ exponent -> c.isDigit = true
  length_exponent : 2 ≤ exponent.length

namespace Scientific

def exponentChars (s : Scientific) : List Char :=
  'E' :: (if s.exponentNegative then '-' else '+') :: s.exponent

def magnitudeChars (s : Scientific) : List Char :=
  s.lead :: '.' :: (s.fraction ++ s.exponentChars)

def chars (s : Scientific) : List Char :=
  signChars s.negative ++ s.magnitudeChars

/-!
## The number denoted
-/

/-- The sixteen digits as a number without a point. -/
def significand (s : Scientific) : Nat :=
  Nat.ofDigitChars 10 (s.lead :: s.fraction) 0

def power (s : Scientific) : Int :=
  signed s.exponentNegative (Nat.ofDigitChars 10 s.exponent 0)

theorem significand_eq_and_power_eq {s t : Scientific} (h : s.magnitudeChars = t.magnitudeChars) :
    s.significand = t.significand ∧ s.power = t.power := by
  rcases List.cons.inj h with ⟨hlead, hpoint⟩
  have hlength : s.fraction.length = t.fraction.length :=
    s.length_fraction.trans t.length_fraction.symm
  rcases List.append_inj (List.cons.inj hpoint).right hlength with ⟨hfraction, hmark⟩
  rcases List.cons.inj (List.cons.inj hmark).right with ⟨hsign, hexponent⟩
  have hnegative : s.exponentNegative = t.exponentNegative := by
    cases hs : s.exponentNegative <;> cases ht : t.exponentNegative <;> simp_all
  constructor
  · rw [significand, significand, hlead, hfraction]
  · rw [power, power, hnegative, hexponent]

/-- The number that the text denotes. -/
def toRat (s : Scientific) : ℚ :=
  signed s.negative s.significand * 10 ^ (s.power - 15)

theorem toRat_eq_of_chars_eq {s t : Scientific} (h : s.chars = t.chars) : s.toRat = t.toRat := by
  have hsign (negative : Bool) : forall c, c ∈ signChars negative -> (c == '-') = true :=
    fun c hc => beq_iff_eq.mpr (Numeral.eq_of_mem_signChars hc)
  have hlead (s : Scientific) : Text.StopsRun (· == '-') s.magnitudeChars :=
    Text.stopsRun_cons (Numeral.eq_of_isDigit (f := (· == '-')) (by decide) s.isDigit_lead)
  rcases Text.append_split (hsign _) (hsign _) (hlead s) (hlead t) h with ⟨hsigns, hmagnitude⟩
  have hnegative : s.negative = t.negative := by
    cases hs : s.negative <;> cases ht : t.negative <;> simp_all [signChars]
  rcases significand_eq_and_power_eq hmagnitude with ⟨hsignificand, hpower⟩
  rw [toRat, toRat, hnegative, hsignificand, hpower]

/-- The number as a decimal with the digits that are written. -/
def decimal (s : Scientific) : Decimal :=
  ⟨signed s.negative s.significand, 15 - s.power⟩

theorem toRat_decimal (s : Scientific) : s.decimal.toRat = s.toRat := by
  rw [decimal, Decimal.toRat, toRat, neg_sub]

theorem isDigit_of_mem {s : Scientific} {c : Char} (h : c ∈ s.lead :: s.fraction) :
    c.isDigit = true := by
  rcases List.mem_cons.mp h with rfl | hfraction
  · exact s.isDigit_lead
  · exact s.isDigit_fraction c hfraction

theorem lead_eq_zero_iff (s : Scientific) :
    s.lead = '0' <-> s.significand < tenPow 15 := by
  rcases Numeral.exists_digitChar s.isDigit_lead with ⟨k, hk, hlead⟩
  have hrest : Nat.ofDigitChars 10 s.fraction 0 < tenPow 15 := by
    rw [← s.length_fraction]
    exact Numeral.ofDigitChars_lt s.isDigit_fraction
  have hvalue : s.significand = tenPow 15 * k + Nat.ofDigitChars 10 s.fraction 0 := by
    rw [significand, hlead, Nat.ofDigitChars_cons_digitChar_of_lt_ten hk,
      Nat.ofDigitChars_eq_ofDigitChars_zero, s.length_fraction, Nat.mul_zero, Nat.zero_add]
    rfl
  have hdigit : Nat.digitChar k = '0' <-> k = 0 := by
    have hall : forall k, k < 10 -> (Nat.digitChar k = '0' <-> k = 0) := by decide
    exact hall k hk
  rw [hlead, hdigit, hvalue]
  constructor
  · intro hzero
    rw [hzero, Nat.mul_zero, Nat.zero_add]
    exact hrest
  · intro hlt
    by_contra hne
    have hle := Nat.le_mul_of_pos_right (tenPow 15) (Nat.pos_of_ne_zero hne)
    omega

/-!
## Scanning
-/

theorem stopsRun_exponentChars (s : Scientific) :
    Text.StopsRun isPlaceChar s.exponentChars :=
  Text.stopsRun_cons (by decide)

theorem splitExponent?_exponentChars (s : Scientific) :
    Scan.splitExponent? s.exponentChars = some (s.exponentChars, []) := by
  have htake := Text.takeWhile_append s.isDigit_exponent (Text.stopsRun_nil _)
  have hdrop := Text.dropWhile_append s.isDigit_exponent (Text.stopsRun_nil _)
  rw [List.append_nil] at htake hdrop
  have hne : s.exponent.isEmpty = false := by
    have hlength := s.length_exponent
    cases hexponent : s.exponent with
    | nil =>
        rw [hexponent] at hlength
        cases hlength
    | cons c rest => rfl
  have hsign : Scan.splitSign ((if s.exponentNegative then '-' else '+') :: s.exponent) =
      ([if s.exponentNegative then '-' else '+'], s.exponent) := by
    cases s.exponentNegative <;> rfl
  simp [Scan.splitExponent?, exponentChars, hsign, htake, hdrop, hne]

theorem isNumber (s : Scientific) : Scan.IsNumber .decimal s.magnitudeChars := by
  have hlead : forall c, c ∈ [s.lead] -> c.isDigit = true := by
    intro c hc
    rw [List.mem_singleton.mp hc]
    exact s.isDigit_lead
  have hpoint : pointChars s.fraction = '.' :: s.fraction := by
    have hlength := s.length_fraction
    rw [pointChars, if_neg]
    intro hnil
    rw [hnil] at hlength
    cases hlength
  have hchars : s.magnitudeChars =
      [s.lead] ++ (pointChars s.fraction ++ s.exponentChars) := by
    rw [hpoint]
    rfl
  constructor
  · exact ⟨s.lead, _, rfl, s.isDigit_lead⟩
  · rw [hchars, Scan.number_of_exponent hlead s.isDigit_fraction s.stopsRun_exponentChars
      s.splitExponent?_exponentChars, List.append_assoc]

/-!
## Reading
-/

theorem splitPoint_base (s : Scientific) :
    Decimal.splitPoint (signChars s.negative ++ s.lead :: '.' :: s.fraction) =
      (signChars s.negative ++ s.lead :: s.fraction, 15) := by
  have hwhole : forall c, c ∈ signChars s.negative ++ [s.lead] -> (c != '.') = true := by
    intro c hc
    rcases List.mem_append.mp hc with hsign | hlead
    · rw [Numeral.eq_of_mem_signChars hsign]
      rfl
    · rw [List.mem_singleton.mp hlead]
      exact Numeral.eq_of_isDigit (f := fun c => c != '.') (by decide) s.isDigit_lead
  have hpoint : Text.StopsRun (· != '.') ('.' :: s.fraction) := Text.stopsRun_cons rfl
  have hplaces : s.fraction.countP (· != '_') = 15 := by
    rw [← s.length_fraction, List.countP_eq_length]
    intro c hc
    exact Numeral.eq_of_isDigit (f := fun c => c != '_') (by decide) (s.isDigit_fraction c hc)
  have hchars : signChars s.negative ++ s.lead :: '.' :: s.fraction =
      (signChars s.negative ++ [s.lead]) ++ '.' :: s.fraction := by
    simp
  rw [hchars, Decimal.splitPoint, Text.takeWhile_append hwhole hpoint,
    Text.dropWhile_append hwhole hpoint]
  simp only [hplaces, List.append_assoc, List.singleton_append]

theorem not_isExponentMark_of_mem_base {s : Scientific} {c : Char}
    (h : c ∈ signChars s.negative ++ s.lead :: '.' :: s.fraction) :
    (!Decimal.isExponentMark c) = true := by
  have hdigit {d : Char} (hd : d.isDigit = true) : (!Decimal.isExponentMark d) = true :=
    Numeral.eq_of_isDigit (f := fun d => !Decimal.isExponentMark d) (by decide) hd
  rcases List.mem_append.mp h with hsign | hnumber
  · rw [Numeral.eq_of_mem_signChars hsign]
    rfl
  · rcases List.mem_cons.mp hnumber with rfl | hpoint
    · exact hdigit s.isDigit_lead
    · rcases List.mem_cons.mp hpoint with rfl | hfraction
      · rfl
      · exact hdigit (s.isDigit_fraction c hfraction)

/-- A number in scientific notation is read with all its digits, if its scale is in
range. -/
theorem ofChars_chars (s : Scientific) (h : Decimal.isScale (15 - s.power) = true) :
    Decimal.ofChars s.chars = .ok s.decimal := by
  have hmark : Text.StopsRun (fun c => !Decimal.isExponentMark c) s.exponentChars :=
    Text.stopsRun_cons rfl
  have hchars : s.chars =
      (signChars s.negative ++ s.lead :: '.' :: s.fraction) ++ s.exponentChars := by
    simp [chars, magnitudeChars]
  have hexponentNe : s.exponent ≠ [] := by
    intro hnil
    have hlength := s.length_exponent
    rw [hnil] at hlength
    cases hlength
  -- a scale of 64 bits comes from an exponent that fits in 128
  have hrange : Nat.ofDigitChars 10 s.exponent 0 < Decimal.exponentRange := by
    have habs := Numeral.natAbs_signed s.exponentNegative (Nat.ofDigitChars 10 s.exponent 0)
    have hscale := h
    rw [power, Decimal.isScale, Bool.and_eq_true, decide_eq_true_eq, decide_eq_true_eq] at hscale
    rw [Decimal.exponentRange]
    omega
  have hexponent := Decimal.exponentOfChars_signed s.exponentNegative hexponentNe
    s.isDigit_exponent hrange
  have hbase : (signChars s.negative ++ s.lead :: '.' :: s.fraction).isEmpty = false := by
    rw [List.isEmpty_eq_false_iff]
    exact List.append_ne_nil_of_right_ne_nil _ (List.cons_ne_nil _ _)
  have hcoefficient := Numeral.integerOfChars_signChars_append s.negative
    (List.cons_ne_nil s.lead s.fraction) fun _ => isDigit_of_mem
  unfold Decimal.ofChars
  rw [hchars, Text.takeWhile_append (fun _ => not_isExponentMark_of_mem_base) hmark,
    Text.dropWhile_append (fun _ => not_isExponentMark_of_mem_base) hmark]
  simp only [exponentChars, hexponent, hbase, splitPoint_base, hcoefficient]
  show (if (!Decimal.isScale (15 - s.power)) = true then _ else _) = _
  rw [h]
  rfl

end Scientific
end Reckon
