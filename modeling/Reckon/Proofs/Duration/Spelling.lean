import Reckon.Duration.Text
import Reckon.Proofs.Duration.Components
import Reckon.Proofs.Duration.Range

/-!
# The spelling of durations

A duration is written in one of several layouts, all of which are rows of
components that count its nanoseconds exactly: what is trimmed off a fraction are
zeros, and the unit brings them back. So every duration reads back from its text.
-/

namespace Reckon
namespace Duration

open Numeral

/-!
## Fractions
-/

/-- The digits of a fraction, without trailing zeros. -/
def fractionDigits (value places : Nat) : List Char :=
  if value = 0 then [] else trimZeros (padded places value)

theorem isDigit_of_mem_fractionDigits {value places : Nat} {c : Char}
    (h : c ∈ fractionDigits value places) : c.isDigit = true := by
  unfold fractionDigits at h
  split at h
  · cases h
  · rcases exists_trimZeros_append (padded places value) with ⟨count, hzeros⟩
    have hmem : c ∈ padded places value := by
      rw [← hzeros]
      exact List.mem_append_left _ h
    exact isDigit_of_mem_padded hmem

theorem fractionChars_eq {value places : Nat} (h : value < tenPow places) :
    fractionChars value places = pointChars (fractionDigits value places) := by
  unfold fractionChars fractionDigits
  split
  · rfl
  · next hvalue =>
      have hne : trimZeros (padded places value) ≠ [] := by
        intro hnil
        rcases exists_trimZeros_append (padded places value) with ⟨count, hzeros⟩
        have hread := ofDigitChars_padded h
        rw [← hzeros, ofDigitChars_append_zeros, hnil, Nat.ofDigitChars_nil,
          Nat.zero_mul] at hread
        exact hvalue hread.symm
      rw [pointChars, if_neg hne]
      rfl

/-- A fraction counts exactly the nanoseconds that it was made of: no digit is lost,
and what a trimmed zero stands for comes back with the unit. -/
theorem fractionNanoseconds_fractionDigits {value places : Nat} {unit : TimeUnit}
    (hunit : unit.nanoseconds = tenPow places) (hplaces : places ≤ fractionPlaces)
    (hvalue : value < tenPow places) :
    fractionNanoseconds (fractionDigits value places) unit = value := by
  unfold fractionDigits
  split
  · next hzero =>
      rw [hzero, fractionNanoseconds, List.take_nil, Nat.ofDigitChars_nil, Nat.zero_mul,
        Nat.zero_div]
  · rcases exists_trimZeros_append (padded places value) with ⟨count, hzeros⟩
    have hlength : (trimZeros (padded places value)).length + count = places := by
      have := congrArg List.length hzeros
      rw [List.length_append, List.length_replicate, padded_length] at this
      exact this
    have htake : (trimZeros (padded places value)).take fractionPlaces =
        trimZeros (padded places value) := List.take_of_length_le (by omega)
    -- the unit is worth the digits that are left and the zeros that were trimmed
    have hscale : tenPow places =
        tenPow count * tenPow (trimZeros (padded places value)).length := by
      rw [← tenPow_add, Nat.add_comm, hlength]
    have hread := ofDigitChars_padded hvalue
    rw [← hzeros, ofDigitChars_append_zeros] at hread
    rw [fractionNanoseconds, htake, hunit, hscale, ← Nat.mul_assoc, hread]
    exact Nat.mul_div_cancel value (tenPow_pos _)

/-!
## The components of a duration
-/

/-- A number of nanoseconds as a component in a unit of `tenPow places` of them. -/
def scaledPart (nanoseconds places : Nat) (unit : TimeUnit) : Component where
  whole := digits (nanoseconds / tenPow places)
  fraction := fractionDigits (nanoseconds % tenPow places) places
  unit := unit.chars

theorem scaledPart_counts (n : Nat) {places : Nat} {unit : TimeUnit}
    (hunit : unit.nanoseconds = tenPow places) (hplaces : places ≤ fractionPlaces) :
    (scaledPart n places unit).Counts unit n where
  whole_ne_nil := digits_ne_nil _
  isDigit_whole _ := isDigit_of_mem_digits
  isDigit_fraction _ := isDigit_of_mem_fractionDigits
  unit_eq := rfl
  count_eq := by
    have hlt : n % tenPow places < tenPow places := Nat.mod_lt n (tenPow_pos places)
    rw [scaledPart, ofDigitChars_digits,
      fractionNanoseconds_fractionDigits hunit hplaces hlt, hunit, Nat.mul_comm]
    exact Nat.div_add_mod n (tenPow places)

theorem chars_scaledPart (n places : Nat) (unit : TimeUnit) :
    (scaledPart n places unit).chars = scaledChars n places unit.chars := by
  have hlt : n % tenPow places < tenPow places := Nat.mod_lt n (tenPow_pos places)
  rw [scaledChars, fractionChars_eq hlt, List.append_assoc]
  rfl

def wholePart (count : Nat) (unit : TimeUnit) : Component where
  whole := digits count
  fraction := []
  unit := unit.chars

theorem wholePart_counts (count : Nat) (unit : TimeUnit) :
    (wholePart count unit).Counts unit (count * unit.nanoseconds) where
  whole_ne_nil := digits_ne_nil _
  isDigit_whole _ := isDigit_of_mem_digits
  isDigit_fraction _ := by
    intro h
    cases h
  unit_eq := rfl
  count_eq := by
    rw [wholePart, ofDigitChars_digits, fractionNanoseconds, List.take_nil,
      Nat.ofDigitChars_nil, Nat.zero_mul, Nat.zero_div, Nat.add_zero]

theorem spelled_scaledPart (n : Nat) {places : Nat} {unit : TimeUnit}
    (hunit : unit.nanoseconds = tenPow places) (hplaces : places ≤ fractionPlaces) :
    Spelled [scaledPart n places unit] n :=
  .cons (scaledPart_counts n hunit hplaces) .nil

/-- The hours, minutes and seconds of a duration, without leading parts that are
zero. -/
def clockParts (nanoseconds : Nat) : List Component :=
  let minutes := nanoseconds / 60000000000
  let seconds := scaledPart (nanoseconds % 60000000000) 9 .second
  if minutes = 0 then [seconds]
  else if minutes / 60 = 0 then [wholePart minutes .minute, seconds]
  else [wholePart (minutes / 60) .hour, wholePart (minutes % 60) .minute, seconds]

theorem clockChars_eq (n : Nat) :
    clockChars n = (clockParts n).flatMap Component.chars := by
  have hminutes : n / 1000000000 / 60 = n / 60000000000 := by omega
  have hseconds : n / 1000000000 % 60 = n % 60000000000 / tenPow 9 := by
    have hten : tenPow 9 = 1000000000 := rfl
    rw [hten]
    omega
  have hfraction : n % 1000000000 = n % 60000000000 % tenPow 9 := by
    have hten : tenPow 9 = 1000000000 := rfl
    rw [hten]
    omega
  have hchars : digits (n / 1000000000 % 60) ++ fractionChars (n % 1000000000) 9 ++ ['s'] =
      (scaledPart (n % 60000000000) 9 .second).chars := by
    rw [chars_scaledPart, scaledChars, hseconds, hfraction]
    rfl
  unfold clockChars clockParts
  simp only [hminutes, hchars]
  split
  · simp
  · split
    · simp [Component.chars, wholePart, pointChars, TimeUnit.chars]
    · simp [Component.chars, wholePart, pointChars, TimeUnit.chars]

theorem spelled_clockParts (n : Nat) : Spelled (clockParts n) n := by
  have hseconds : Spelled [scaledPart (n % 60000000000) 9 .second] (n % 60000000000) :=
    spelled_scaledPart _ rfl (by decide)
  unfold clockParts
  dsimp only
  split
  · next hminutes =>
      have hn : n % 60000000000 = n := by omega
      rw [hn] at hseconds ⊢
      exact hseconds
  · split
    · have hn : n / 60000000000 * 60000000000 + n % 60000000000 = n := by omega
      have hspelled := Spelled.cons (wholePart_counts (n / 60000000000) .minute) hseconds
      rw [TimeUnit.nanoseconds, hn] at hspelled
      exact hspelled
    · have hn : n / 60000000000 / 60 * 3600000000000 +
          (n / 60000000000 % 60 * 60000000000 + n % 60000000000) = n := by omega
      have hspelled := Spelled.cons (wholePart_counts (n / 60000000000 / 60) .hour)
        (Spelled.cons (wholePart_counts (n / 60000000000 % 60) .minute) hseconds)
      rw [TimeUnit.nanoseconds, TimeUnit.nanoseconds, hn] at hspelled
      exact hspelled

theorem clockParts_ne_nil (n : Nat) : clockParts n ≠ [] := by
  unfold clockParts
  dsimp only
  split
  · exact List.cons_ne_nil _ _
  · split
    · exact List.cons_ne_nil _ _
    · exact List.cons_ne_nil _ _

/-- Every duration is written as components that count its nanoseconds. -/
theorem exists_spelled (n : Nat) :
    exists parts, parts ≠ [] ∧ Spelled parts n ∧
      magnitudeChars n = parts.flatMap Component.chars := by
  have hscaled (places : Nat) (unit : TimeUnit) (hunit : unit.nanoseconds = tenPow places)
      (hplaces : places ≤ fractionPlaces) :
      exists parts, parts ≠ [] ∧ Spelled parts n ∧
        scaledChars n places unit.chars = parts.flatMap Component.chars := by
    refine ⟨[scaledPart n places unit], List.cons_ne_nil _ _,
      spelled_scaledPart n hunit hplaces, ?_⟩
    rw [List.flatMap_singleton, chars_scaledPart]
  unfold magnitudeChars
  split
  · next hzero =>
      have hchars : scaledChars n 9 TimeUnit.second.chars = ['0', 's'] := by
        have hdigit : digits 0 = ['0'] := by
          rw [digits_eq_toDigits]
          rfl
        rw [hzero, scaledChars, Nat.zero_div, hdigit]
        rfl
      rw [← hchars]
      exact hscaled 9 .second rfl (by decide)
  · split
    · exact hscaled 0 .nanosecond rfl (by decide)
    · split
      · exact hscaled 3 .microsecond rfl (by decide)
      · split
        · exact hscaled 6 .millisecond rfl (by decide)
        · exact ⟨clockParts n, clockParts_ne_nil n, spelled_clockParts n, clockChars_eq n⟩

/-!
## Durations read back
-/

/-- The sign in front of a duration. -/
def Sign.ofNegative : Bool -> Sign
  | true => .minus
  | false => .absent

theorem Sign.isMinus_ofNegative (negative : Bool) : (ofNegative negative).isMinus = negative := by
  cases negative <;> rfl

theorem Sign.chars_ofNegative (negative : Bool) :
    (ofNegative negative).chars = signChars negative := by
  cases negative <;> rfl

theorem chars_eq (d : Duration) :
    d.chars = signChars (d.nanoseconds < 0) ++ magnitudeChars d.nanoseconds.natAbs := by
  unfold chars signChars
  simp only [decide_eq_true_eq]
  split <;> rfl

/-- Every duration reads back from its text. The most negative one does because its
sign is taken into account before its range is. -/
theorem ofChars_chars (d : Duration) : ofChars d.chars = .ok d := by
  rcases exists_spelled d.nanoseconds.natAbs with ⟨parts, hne, hspelled, hchars⟩
  rcases hspelled.exists_amounts with ⟨amounts, hparts, hamounts, -⟩
  have hamountsNe : amounts ≠ [] := by
    rintro rfl
    exact hne hparts.symm
  have hmagnitude : d.nanoseconds.natAbs ≤ maxMagnitude := by
    have hrange := d.inRange
    have hmax : maxMagnitude = 9223372036854775808 := rfl
    simp only [IsDuration] at hrange
    omega
  have hread := ofChars_eq_of_amounts (Sign.ofNegative (d.nanoseconds < 0)) hamountsNe
  rw [Sign.chars_ofNegative, Sign.isMinus_ofNegative, hamounts, ← hchars, ← chars_eq, hparts,
    hspelled.foldlM_addTo hmagnitude] at hread
  rw [hread]
  show ofTotal (signed (d.nanoseconds < 0) d.nanoseconds.natAbs) = .ok d
  rw [signed_natAbs, ofTotal_of_isDuration d.inRange]

end Duration
end Reckon
