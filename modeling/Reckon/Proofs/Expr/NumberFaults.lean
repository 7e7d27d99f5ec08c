import Reckon.Proofs.Duration.Range
import Reckon.Proofs.Duration.Scanning

/-!
# What can be wrong with a scanned number

A number that a scanner has split off has digits where its reader needs them. With or
without a sign in front of it, nothing is wrong with an integer. A decimal can be out of
range only; and a duration can also lack a unit, or have one that is not known.
-/

namespace Reckon

open Numeral (pointChars isPlaceChar)
open Scan (signTexts mem_signTexts)

/-!
## Integers
-/

namespace Numeral

theorem exists_integerOfChars {sign cs : List Char} (hsign : sign ∈ signTexts)
    (hne : cs ≠ []) (hdigits : forall c, c ∈ cs -> c.isDigit = true) :
    exists n, integerOfChars (sign ++ cs) = .ok n := by
  rcases mem_signTexts.mp hsign with rfl | rfl | rfl
  · exact ⟨_, integerOfChars_signChars_append false hne hdigits⟩
  · refine ⟨Nat.ofDigitChars 10 cs 0, ?_⟩
    show (naturalOfChars cs).map _ = _
    rw [naturalOfChars_of_digits hne hdigits]
    rfl
  · exact ⟨_, integerOfChars_signChars_append true hne hdigits⟩

end Numeral

/-!
## Decimals
-/

namespace Decimal

/-- The faults of a decimal whose exponent or scale is out of range. -/
def Fault.OutOfRange : Fault -> Prop
  | .exponentTooLarge => True
  | .exponentTooSmall => True
  | .scaleOverflow _ => True
  | .empty => False
  | .numeral _ => False

theorem fault_of_digitsWithin {limit n : Nat} {overflow fault : Fault} {cs : List Char}
    (hdigits : forall c, c ∈ cs -> c.isDigit = true)
    (h : digitsWithin limit overflow n cs = .error fault) : fault = overflow := by
  induction cs generalizing n with
  | nil => cases h
  | cons c cs ih =>
      rw [digitsWithin, if_pos (hdigits c List.mem_cons_self)] at h
      dsimp only at h
      split at h
      · cases h
        rfl
      · exact ih (fun d hd => hdigits d (List.mem_cons_of_mem c hd)) h

theorem outOfRange_of_map {limit : Nat} (overflow : Fault) {fault : Fault} {cs : List Char}
    {f : Nat -> Int} (hoverflow : overflow.OutOfRange)
    (hdigits : forall c, c ∈ cs -> c.isDigit = true)
    (h : (digitsWithin limit overflow 0 cs).map f = .error fault) : fault.OutOfRange := by
  cases hread : digitsWithin limit overflow 0 cs with
  | error found =>
      rw [hread] at h
      cases h
      rw [fault_of_digitsWithin hdigits hread]
      exact hoverflow
  | ok n =>
      rw [hread] at h
      cases h

theorem outOfRange_of_exponentOfChars {sign digits : List Char} {fault : Fault}
    (hsign : sign ∈ signTexts) (hne : digits ≠ [])
    (hdigits : forall c, c ∈ digits -> c.isDigit = true)
    (h : exponentOfChars (sign ++ digits) = .error fault) : fault.OutOfRange := by
  rcases List.exists_cons_of_ne_nil hne with ⟨c, rest, rfl⟩
  rcases mem_signTexts.mp hsign with rfl | rfl | rfl
  · have hminus : c ≠ '-' := by
      rintro rfl
      exact absurd (hdigits '-' List.mem_cons_self) (by decide)
    have hplus : c ≠ '+' := by
      rintro rfl
      exact absurd (hdigits '+' List.mem_cons_self) (by decide)
    rw [List.nil_append] at h
    unfold exponentOfChars at h
    split at h
    · next hnil => cases hnil
    · next hchars =>
        cases hchars
        exact absurd rfl hminus
    · next hchars =>
        cases hchars
        exact absurd rfl hplus
    · next hchars =>
        cases hchars
        exact absurd rfl hminus
    · next hchars =>
        cases hchars
        exact absurd rfl hplus
    · exact outOfRange_of_map .exponentTooLarge trivial hdigits h
  · exact outOfRange_of_map .exponentTooLarge trivial hdigits h
  · exact outOfRange_of_map .exponentTooSmall trivial hdigits h

theorem forall_mem_sign_append {p : Char -> Bool} (hplus : p '+' = true) (hminus : p '-' = true)
    (hdigit : forall k, k < 10 -> p (Nat.digitChar k) = true) {sign whole : List Char}
    (hsign : sign ∈ signTexts) (hwhole : forall c, c ∈ whole -> c.isDigit = true) :
    forall c, c ∈ sign ++ whole -> p c = true := by
  intro c hc
  rcases List.mem_append.mp hc with hc | hc
  · rcases mem_signTexts.mp hsign with rfl | rfl | rfl
    · cases hc
    · rw [List.mem_singleton.mp hc, hplus]
    · rw [List.mem_singleton.mp hc, hminus]
  · exact Numeral.eq_of_isDigit hdigit (hwhole c hc)

theorem exists_splitPoint {sign whole : List Char} (hsign : sign ∈ signTexts)
    (hwhole : forall c, c ∈ whole -> c.isDigit = true) (fraction : List Char) :
    exists places, splitPoint (sign ++ whole ++ pointChars fraction) =
      (sign ++ whole ++ fraction, places) := by
  have hbefore := forall_mem_sign_append (p := (· != '.')) rfl rfl (by decide) hsign hwhole
  have hstops : Text.StopsRun (· != '.') (pointChars fraction) := by
    unfold pointChars
    split
    · exact Text.stopsRun_nil _
    · exact Text.stopsRun_cons rfl
  rw [splitPoint, Text.takeWhile_append hbefore hstops, Text.dropWhile_append hbefore hstops]
  cases fraction with
  | nil =>
      rw [List.append_nil]
      exact ⟨_, rfl⟩
  | cons c cs => exact ⟨_, rfl⟩

theorem not_isExponentMark_of_mem {sign whole fraction : List Char} (hsign : sign ∈ signTexts)
    (hwhole : forall c, c ∈ whole -> c.isDigit = true)
    (hfraction : forall c, c ∈ fraction -> c.isDigit = true) :
    forall c, c ∈ sign ++ whole ++ pointChars fraction -> (!isExponentMark c) = true := by
  intro c hc
  rcases List.mem_append.mp hc with hc | hc
  · exact forall_mem_sign_append (p := fun c => !isExponentMark c) rfl rfl (by decide) hsign
      hwhole c hc
  · unfold pointChars at hc
    split at hc
    · cases hc
    · rcases List.mem_cons.mp hc with rfl | hc
      · decide
      · exact Numeral.eq_of_isDigit (f := fun c => !isExponentMark c) (by decide)
          (hfraction c hc)

/-- The exponent that is written behind a number, zero if there is none. -/
def exponentBehind : List Char -> Except Fault Int
  | [] => .ok 0
  | _ :: rest => exponentOfChars rest

theorem ofChars_append {base ending digits : List Char} {places : Nat} {n : Int}
    (hmarks : forall c, c ∈ base -> (!isExponentMark c) = true)
    (hstops : Text.StopsRun (fun c => !isExponentMark c) ending) (hne : base ≠ [])
    (hpoint : splitPoint base = (digits, places))
    (hcoefficient : Numeral.integerOfChars digits = .ok n) :
    ofChars (base ++ ending) =
      (exponentBehind ending).bind fun exponent =>
        if isScale (places - exponent) then .ok ⟨n, places - exponent⟩
        else .error (.scaleOverflow (base ++ ending)) := by
  have hbase : base.isEmpty = false := List.isEmpty_eq_false_iff.mpr hne
  have hscale (exponent : Int) :
      (if !isScale (places - exponent) then .error (.scaleOverflow (base ++ ending))
        else .ok ⟨n, places - exponent⟩ : Except Fault Decimal) =
      if isScale (places - exponent) then .ok ⟨n, places - exponent⟩
      else .error (.scaleOverflow (base ++ ending)) := by
    cases isScale (places - exponent) <;> rfl
  unfold ofChars
  rw [Text.takeWhile_append hmarks hstops, Text.dropWhile_append hmarks hstops]
  simp only [hbase, hpoint, hcoefficient]
  cases ending with
  | nil => exact hscale 0
  | cons mark rest =>
      dsimp only [exponentBehind]
      cases exponentOfChars rest with
      | error fault => rfl
      | ok exponent => exact hscale exponent

/-- A scanned decimal, with a sign or without, can only be out of range. -/
theorem outOfRange_of_ofChars {sign text : List Char} {fault : Fault}
    (hsign : sign ∈ signTexts) (htext : Scan.NumberShape .decimal text)
    (h : ofChars (sign ++ text) = .error fault) : fault.OutOfRange := by
  cases htext with
  | @intro whole fraction ending hne hwhole hfraction hending =>
      have hdigits : forall c, c ∈ whole ++ fraction -> c.isDigit = true := by
        intro c hc
        rcases List.mem_append.mp hc with hc | hc
        · exact hwhole c hc
        · exact hfraction c hc
      have hstops : Text.StopsRun (fun c => !isExponentMark c) ending := by
        cases hending with
        | decimal _ => exact Text.stopsRun_nil _
        | exponent hexponent =>
            cases hexponent with
            | intro hmark _ _ _ => exact Text.stopsRun_cons (by simpa using hmark)
      have hexponent : forall e, exponentBehind ending = .error e -> e.OutOfRange := by
        intro e he
        cases hending with
        | decimal _ => cases he
        | exponent hexponent =>
            cases hexponent with
            | intro _ hsign hne hdigits =>
                exact outOfRange_of_exponentOfChars hsign hne hdigits he
      have hbase : sign ++ whole ++ pointChars fraction ≠ [] := by
        simp [hne]
      rcases exists_splitPoint hsign hwhole fraction with ⟨places, hpoint⟩
      rcases Numeral.exists_integerOfChars hsign
        (List.append_ne_nil_of_left_ne_nil hne fraction) hdigits with ⟨n, hcoefficient⟩
      rw [← List.append_assoc] at hcoefficient
      rw [← List.append_assoc, ← List.append_assoc,
        ofChars_append (not_isExponentMark_of_mem hsign hwhole hfraction) hstops hbase hpoint
          hcoefficient] at h
      cases hread : exponentBehind ending with
      | error e =>
          rw [hread] at h
          cases h
          exact hexponent fault hread
      | ok exponent =>
          rw [hread] at h
          dsimp only [Except.bind] at h
          split at h
          · cases h
          · cases h
            trivial

end Decimal

/-!
## Durations
-/

namespace Duration

/-- The faults of a duration whose components all have digits. -/
def Fault.BehindDigits : Fault -> Prop
  | .missingUnit => True
  | .unknownUnit _ => True
  | .overflow => True
  | .trap => True
  | .invalid => False

theorem behindDigits_of_addTo {total : Nat} {part : Component} {fault : Fault}
    (hpart : part.whole ≠ []) (h : part.addTo total = .error fault) : fault.BehindDigits := by
  have hdigits : (part.whole.isEmpty && part.fraction.isEmpty) = false := by
    rw [List.isEmpty_eq_false_iff.mpr hpart, Bool.false_and]
  rw [Component.addTo, hdigits, if_neg Bool.false_ne_true] at h
  split at h
  · cases h
    trivial
  · split at h
    · cases h
      trivial
    · dsimp only at h
      split at h
      · cases h
        trivial
      · split at h
        · cases h
          trivial
        · split at h
          · cases h
            trivial
          · cases h

theorem behindDigits_of_foldlM {parts : List Component} {total : Nat} {fault : Fault}
    (hparts : forall part, part ∈ parts -> part.whole ≠ [])
    (h : parts.foldlM Component.addTo total = .error fault) : fault.BehindDigits := by
  induction parts generalizing total with
  | nil => cases h
  | cons part parts ih =>
      rw [List.foldlM_cons] at h
      cases hpart : part.addTo total with
      | error found =>
          rw [hpart] at h
          cases h
          exact behindDigits_of_addTo (hparts part List.mem_cons_self) hpart
      | ok next =>
          rw [hpart] at h
          exact ih (fun p hp => hparts p (List.mem_cons_of_mem part hp)) h

theorem snd_splitSign_append {sign whole : List Char} (hsign : sign ∈ signTexts)
    (hne : whole ≠ []) (hwhole : forall c, c ∈ whole -> c.isDigit = true) (rest : List Char) :
    (splitSign (sign ++ (whole ++ rest))).2 = whole ++ rest := by
  rcases List.exists_cons_of_ne_nil hne with ⟨c, cs, rfl⟩
  have hplace : isPlaceChar c = true := by
    rw [isPlaceChar, hwhole c List.mem_cons_self]
    rfl
  have hsplit (sign : Sign) := (sign.standsBefore_cons hplace (cs ++ rest)).splitSign_eq
  rcases mem_signTexts.mp hsign with rfl | rfl | rfl
  · exact congrArg Prod.snd (hsplit .absent)
  · exact congrArg Prod.snd (hsplit .plus)
  · exact congrArg Prod.snd (hsplit .minus)

/-- A scanned duration, with a sign or without, has digits in front of every unit. -/
theorem behindDigits_of_ofChars {sign text : List Char} {fault : Fault}
    (hsign : sign ∈ signTexts) (htext : Scan.NumberShape .duration text)
    (h : ofChars (sign ++ text) = .error fault) : fault.BehindDigits := by
  cases htext with
  | @intro whole fraction units hne hwhole hfraction hending =>
      cases hending with
      | duration _ _ hunits =>
          rcases exists_placesChars_eq fraction with ⟨fraction?, hplaces, rfl⟩
          have hparts := whole_ne_nil_of_mem_components hne hwhole hfraction hunits
          rw [hplaces] at h
          unfold ofChars at h
          generalize hsplit : splitSign (sign ++ (whole ++ (placesChars fraction? ++ units))) =
            split at h
          have hbody := snd_splitSign_append hsign hne hwhole (placesChars fraction? ++ units)
          rw [hsplit] at hbody
          rcases split with ⟨negative, body⟩
          dsimp only at h hbody
          rw [← hbody] at hparts
          split at h
          · cases h
          · split at h
            · next hempty =>
                rw [hbody, List.isEmpty_iff] at hempty
                exact absurd hempty (List.append_ne_nil_of_left_ne_nil hne _)
            · split at h
              · next hfold =>
                  cases h
                  exact behindDigits_of_foldlM hparts hfold
              · split at h
                · cases h
                · cases h
                  trivial

end Duration
end Reckon
