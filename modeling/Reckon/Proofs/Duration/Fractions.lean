import Mathlib.Data.Rat.Floor
import Reckon.Proofs.Duration.Range

/-!
# Fractions of a nanosecond

An amount is read as the whole nanoseconds in it, and only the first eighteen digits
behind its point are taken into account. Where a power of ten of its units makes a
second, or one unit does, the other digits cannot matter. Minutes and hours are no such
units: there the digits left out may complete one more nanosecond, and never more.
-/

namespace Reckon
namespace Duration

open Numeral (tenPow)

/-- The number that digits with more digits behind a point stand for. -/
def placesNumber (whole fraction : List Char) : ℚ :=
  Nat.ofDigitChars 10 whole 0 +
    (Nat.ofDigitChars 10 fraction 0 : ℚ) / (tenPow fraction.length : Nat)

namespace Amount

/-- The digits of the fraction that count. -/
def kept (a : Amount) : List Char :=
  (a.fraction?.getD []).take fractionPlaces

/-- The digits of the fraction that do not count. -/
def dropped (a : Amount) : List Char :=
  (a.fraction?.getD []).drop fractionPlaces

/-- The number in front of the unit. -/
def number (a : Amount) : ℚ :=
  placesNumber a.whole (a.fraction?.getD [])

/-- The number in front of the unit without the digits that do not count. -/
def keptNumber (a : Amount) : ℚ :=
  placesNumber a.whole a.kept

end Amount

theorem floor_placesNumber_mul (whole fraction : List Char) (unit : Nat) :
    ⌊placesNumber whole fraction * unit⌋ =
      ((Nat.ofDigitChars 10 whole 0 * unit +
        Nat.ofDigitChars 10 fraction 0 * unit / tenPow fraction.length : Nat) : Int) := by
  have hsplit : placesNumber whole fraction * unit =
      ((Nat.ofDigitChars 10 whole 0 * unit : Nat) : ℚ) +
        ((Nat.ofDigitChars 10 fraction 0 * unit : Nat) : ℚ) / (tenPow fraction.length : Nat) := by
    rw [placesNumber, add_mul, div_mul_eq_mul_div, Nat.cast_mul, Nat.cast_mul]
  rw [hsplit, Int.floor_natCast_add, Rat.floor_natCast_div_natCast]
  rfl

theorem Amount.nanoseconds_eq_floor (a : Amount) :
    (a.nanoseconds : Int) = ⌊a.keptNumber * a.unit.nanoseconds⌋ := by
  rw [keptNumber, floor_placesNumber_mul]
  rfl

/-!
## Digits that are left out
-/

section Dropped

variable (kept dropped : List Char) (unit : Nat)

theorem ofDigitChars_append_mul_div :
    Nat.ofDigitChars 10 (kept ++ dropped) 0 * unit / tenPow (kept ++ dropped).length =
      (Nat.ofDigitChars 10 kept 0 * tenPow dropped.length + Nat.ofDigitChars 10 dropped 0) *
        unit / (tenPow kept.length * tenPow dropped.length) := by
  have hvalue : Nat.ofDigitChars 10 (kept ++ dropped) 0 =
      Nat.ofDigitChars 10 kept 0 * tenPow dropped.length + Nat.ofDigitChars 10 dropped 0 := by
    rw [Nat.ofDigitChars_append, Nat.ofDigitChars_eq_ofDigitChars_zero, Nat.mul_comm]
    rfl
  rw [hvalue, List.length_append, Numeral.tenPow_add]

theorem kept_le_floor :
    Nat.ofDigitChars 10 kept 0 * unit / tenPow kept.length ≤
      Nat.ofDigitChars 10 (kept ++ dropped) 0 * unit / tenPow (kept ++ dropped).length := by
  have hpos := Numeral.tenPow_pos dropped.length
  rw [ofDigitChars_append_mul_div, ← Nat.mul_div_mul_right _ (tenPow kept.length) hpos,
    Nat.mul_right_comm]
  exact Nat.div_le_div_right (Nat.mul_le_mul_right unit (Nat.le_add_right _ _))

variable {dropped}

theorem floor_le_kept_add_one (hdropped : forall c, c ∈ dropped -> c.isDigit = true)
    (hunit : unit ≤ tenPow kept.length) :
    Nat.ofDigitChars 10 (kept ++ dropped) 0 * unit / tenPow (kept ++ dropped).length ≤
      Nat.ofDigitChars 10 kept 0 * unit / tenPow kept.length + 1 := by
  -- The digits left out make up less than the last one kept, and so less than a nanosecond if
  -- a unit of that one does.
  have hpos := Numeral.tenPow_pos dropped.length
  have hnext : Nat.ofDigitChars 10 kept 0 * tenPow dropped.length +
      Nat.ofDigitChars 10 dropped 0 ≤ (Nat.ofDigitChars 10 kept 0 + 1) * tenPow dropped.length := by
    rw [Nat.add_mul, Nat.one_mul]
    exact Nat.add_le_add_left (Nat.le_of_lt (Numeral.ofDigitChars_lt hdropped)) _
  rw [ofDigitChars_append_mul_div]
  calc
    _ ≤ (Nat.ofDigitChars 10 kept 0 + 1) * tenPow dropped.length * unit /
        (tenPow kept.length * tenPow dropped.length) :=
      Nat.div_le_div_right (Nat.mul_le_mul_right unit hnext)
    _ = (Nat.ofDigitChars 10 kept 0 * unit + unit) / tenPow kept.length := by
      rw [Nat.mul_right_comm, Nat.mul_div_mul_right _ _ hpos, Nat.add_mul, Nat.one_mul]
    _ ≤ (Nat.ofDigitChars 10 kept 0 * unit + tenPow kept.length) / tenPow kept.length :=
      Nat.div_le_div_right (Nat.add_le_add_left hunit _)
    _ = _ := Nat.add_div_right _ (Numeral.tenPow_pos kept.length)

theorem floor_eq_kept_of_dvd (hdropped : forall c, c ∈ dropped -> c.isDigit = true)
    (hunit : unit ∣ tenPow kept.length) :
    Nat.ofDigitChars 10 (kept ++ dropped) 0 * unit / tenPow (kept ++ dropped).length =
      Nat.ofDigitChars 10 kept 0 * unit / tenPow kept.length := by
  rcases hunit with ⟨share, hshare⟩
  have hpos : 0 < unit := by
    apply Nat.pos_of_ne_zero
    intro hzero
    rw [hzero, Nat.zero_mul] at hshare
    exact (Numeral.tenPow_pos kept.length).ne' hshare
  have hrest := Numeral.ofDigitChars_lt hdropped
  rw [ofDigitChars_append_mul_div, hshare, Nat.mul_assoc unit share, Nat.mul_comm _ unit,
    Nat.mul_comm _ unit, Nat.mul_div_mul_left _ _ hpos, Nat.mul_div_mul_left _ _ hpos,
    Nat.mul_comm share, ← Nat.div_div_eq_div_mul, Nat.mul_comm _ (tenPow dropped.length),
    Nat.mul_add_div (Numeral.tenPow_pos _), Nat.div_eq_of_lt hrest, Nat.add_zero]

end Dropped

/-!
## Amounts and the nanoseconds in them
-/

namespace Amount

variable (a : Amount)

theorem floor_number_mul :
    ⌊a.number * a.unit.nanoseconds⌋ =
      ((a.wholeNanoseconds + Nat.ofDigitChars 10 (a.kept ++ a.dropped) 0 * a.unit.nanoseconds /
        tenPow (a.kept ++ a.dropped).length : Nat) : Int) := by
  rw [kept, dropped, List.take_append_drop]
  exact floor_placesNumber_mul _ _ _

theorem isDigit_of_mem_dropped {c : Char} (h : c ∈ a.dropped) : c.isDigit = true :=
  a.isDigit_fraction c (List.mem_of_mem_drop h)

variable {a}

theorem nanoseconds_eq_floor_of_length_le
    (h : (a.fraction?.getD []).length ≤ fractionPlaces) :
    (a.nanoseconds : Int) = ⌊a.number * a.unit.nanoseconds⌋ := by
  rw [nanoseconds_eq_floor, keptNumber, kept, List.take_of_length_le h, number]

theorem length_kept (h : fractionPlaces ≤ (a.fraction?.getD []).length) :
    a.kept.length = fractionPlaces :=
  List.length_take_of_le h

/-- Units that make a second lose nothing: a second has far fewer nanoseconds than there
are numbers with the digits that count. -/
theorem nanoseconds_eq_floor_of_dvd (h : a.unit.nanoseconds ∣ TimeUnit.second.nanoseconds) :
    (a.nanoseconds : Int) = ⌊a.number * a.unit.nanoseconds⌋ := by
  rcases Nat.le_total (a.fraction?.getD []).length fractionPlaces with hshort | hlong
  · exact nanoseconds_eq_floor_of_length_le hshort
  · have hsecond : TimeUnit.second.nanoseconds ∣ tenPow a.kept.length := by
      rw [length_kept hlong]
      decide
    rw [floor_number_mul, floor_eq_kept_of_dvd _ _ (fun _ => a.isDigit_of_mem_dropped)
      (h.trans hsecond)]
    rfl

variable (a)

theorem nanoseconds_le_floor : (a.nanoseconds : Int) ≤ ⌊a.number * a.unit.nanoseconds⌋ := by
  rw [floor_number_mul]
  exact Int.ofNat_le.mpr (Nat.add_le_add_left (kept_le_floor _ _ _) _)

theorem floor_le_nanoseconds_add_one :
    ⌊a.number * a.unit.nanoseconds⌋ ≤ (a.nanoseconds : Int) + 1 := by
  rcases Nat.le_total (a.fraction?.getD []).length fractionPlaces with hshort | hlong
  · rw [nanoseconds_eq_floor_of_length_le hshort]
    exact Int.le_add_one (le_refl _)
  · have hunit : a.unit.nanoseconds ≤ tenPow a.kept.length := by
      rw [length_kept hlong]
      cases a.unit <;> decide
    rw [floor_number_mul]
    exact Int.ofNat_le.mpr (Nat.add_le_add_left
      (floor_le_kept_add_one _ _ (fun _ => a.isDigit_of_mem_dropped) hunit) _)

end Amount

/-!
## What is read
-/

theorem ofChars_amount {a : Amount} (h : IsDuration (a.nanoseconds : Int)) :
    ofChars a.chars = .ok ⟨a.nanoseconds, h⟩ := by
  have hmax : maxMagnitude = 9223372036854775808 := rfl
  have hsingle : 0 + totalNanoseconds [a] = a.nanoseconds := by
    rw [totalNanoseconds_cons, Nat.zero_add]
    rfl
  have htotal : 0 + totalNanoseconds [a] ≤ maxMagnitude := by
    rw [IsDuration] at h
    omega
  have hread := ofChars_eq_of_amounts .absent (List.cons_ne_nil a [])
  rw [foldlM_addTo_components (not_carriesFrom_of_le htotal) (Nat.zero_le _), if_pos htotal,
    hsingle, List.flatMap_singleton] at hread
  exact hread.trans (ofTotal_of_isDuration h)

/-- An amount with no more nanoseconds in it than a duration can have is read as the
whole nanoseconds in the number that is kept of it. These are all the whole nanoseconds
in it if its unit is a second or a fraction of one, or if no digit is left out, and
otherwise at most one fewer. -/
theorem ofChars_amount_floor (a : Amount)
    (hrange : IsDuration ⌊a.number * a.unit.nanoseconds⌋) :
    exists d, ofChars a.chars = .ok d ∧
      d.nanoseconds = ⌊a.keptNumber * a.unit.nanoseconds⌋ ∧
      (a.unit.nanoseconds ∣ TimeUnit.second.nanoseconds ∨
          (a.fraction?.getD []).length ≤ fractionPlaces ->
        d.nanoseconds = ⌊a.number * a.unit.nanoseconds⌋) ∧
      (d.nanoseconds = ⌊a.number * a.unit.nanoseconds⌋ ∨
        d.nanoseconds + 1 = ⌊a.number * a.unit.nanoseconds⌋) := by
  have hle := a.nanoseconds_le_floor
  have hge := a.floor_le_nanoseconds_add_one
  have hkept : IsDuration (a.nanoseconds : Int) := by
    rw [IsDuration] at hrange ⊢
    omega
  refine ⟨_, ofChars_amount hkept, a.nanoseconds_eq_floor, ?_, ?_⟩
  · rintro (hdvd | hshort)
    · exact Amount.nanoseconds_eq_floor_of_dvd hdvd
    · exact Amount.nanoseconds_eq_floor_of_length_le hshort
  · show (a.nanoseconds : Int) = _ ∨ (a.nanoseconds : Int) + 1 = _
    omega

/-- Seconds with twenty digits behind the point. -/
theorem ofChars_amount_floor_of_seconds :
    let a : Amount := ⟨"1".toList, some "99999999999999999999".toList, .second, ['s'],
      by simp, by simp, by decide, rfl⟩
    IsDuration ⌊a.number * a.unit.nanoseconds⌋ ∧
      a.unit.nanoseconds ∣ TimeUnit.second.nanoseconds ∧
      exists d, ofChars "1.99999999999999999999s".toList = .ok d ∧
        d.nanoseconds = ⌊a.number * a.unit.nanoseconds⌋ ∧ d.nanoseconds = 1999999999 := by
  intro a
  have hfloor : ⌊a.number * a.unit.nanoseconds⌋ = 1999999999 := by
    rw [Amount.floor_number_mul]
    decide
  have hrange : IsDuration ⌊a.number * a.unit.nanoseconds⌋ := by
    rw [hfloor]
    decide
  have hunit : a.unit.nanoseconds ∣ TimeUnit.second.nanoseconds := Nat.dvd_refl _
  rcases ofChars_amount_floor a hrange with ⟨d, hread, -, hexact, -⟩
  have hnanoseconds := hexact (Or.inl hunit)
  exact ⟨hrange, hunit, d, hread, hnanoseconds, hnanoseconds.trans hfloor⟩

/-!
A minute has sixty seconds, and three divides no power of ten: here the nineteenth digit
completes the second of two nanoseconds.
-/

theorem ofChars_minutes_short :
    let a : Amount := ⟨"0".toList, some "0000000000333333334".toList, .minute, ['m'],
      by simp, by simp, by decide, rfl⟩
    a.chars = "0.0000000000333333334m".toList ∧
      IsDuration ⌊a.number * a.unit.nanoseconds⌋ ∧
      ⌊a.number * a.unit.nanoseconds⌋ = 2 ∧
      exists d, ofChars "0.0000000000333333334m".toList = .ok d ∧ d.nanoseconds = 1 := by
  intro a
  have hfloor : ⌊a.number * a.unit.nanoseconds⌋ = 2 := by
    rw [Amount.floor_number_mul]
    decide
  have hrange : IsDuration ⌊a.number * a.unit.nanoseconds⌋ := by
    rw [hfloor]
    decide
  have hone : (a.nanoseconds : Int) = 1 := by decide
  have hcount : IsDuration (a.nanoseconds : Int) := by
    rw [hone]
    decide
  exact ⟨by decide, hrange, hfloor, _, ofChars_amount hcount, hone⟩

end Duration
end Reckon
