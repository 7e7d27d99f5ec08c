import Reckon.Proofs.Duration.Amounts

/-!
# The range of durations

A row of amounts with or without a sign is read as the duration that its exact total
makes, and refused if there is none. A total is compared with the range after its
fraction has been added, though, and that sum is kept in 128 bits: instead of being
refused, a whole part just below what these bits can tell traps with a fraction that
goes beyond it.
-/

namespace Reckon
namespace Duration

open Numeral (tenPow isPlaceChar signed)

/-- What may stand in front of the amounts. -/
inductive Sign where
  | absent
  | plus
  | minus
  deriving DecidableEq, Repr

namespace Sign

def chars : Sign -> List Char
  | .absent => []
  | .plus => ['+']
  | .minus => ['-']

def isMinus : Sign -> Bool
  | .minus => true
  | _ => false

end Sign

/-- Whether a sign is the one in front of a text: none is left out that the text begins
with. -/
def Sign.StandsBefore (sign : Sign) (body : List Char) : Prop :=
  sign = .absent -> Text.StopsRun (fun c => c == '-' || c == '+') body

theorem Sign.StandsBefore.splitSign_eq {sign : Sign} {body : List Char}
    (h : sign.StandsBefore body) : splitSign (sign.chars ++ body) = (sign.isMinus, body) := by
  cases sign with
  | plus => rfl
  | minus => rfl
  | absent =>
      have hstops := h rfl
      show splitSign body = (false, body)
      unfold splitSign
      split
      · cases hstops '-' rfl
      · cases hstops '+' rfl
      · rfl

theorem Sign.standsBefore_cons (sign : Sign) {c : Char} (hc : isPlaceChar c = true)
    (rest : List Char) : sign.StandsBefore (c :: rest) := by
  intro _
  apply Text.stopsRun_cons
  rw [Bool.or_eq_false_iff, beq_eq_false_iff_ne, beq_eq_false_iff_ne]
  constructor
  · rintro rfl
    cases hc
  · rintro rfl
    cases hc

theorem isDuration_signed_le {negative : Bool} {n : Nat} (h : IsDuration (signed negative n)) :
    n ≤ maxMagnitude := by
  have hmax : maxMagnitude = 9223372036854775808 := rfl
  have habs := Numeral.natAbs_signed negative n
  simp only [IsDuration] at h
  omega

/-- The duration that a total makes, if it is in range. -/
def ofTotal (total : Int) : Except Fault Duration :=
  match ofNanoseconds? total with
  | some d => .ok d
  | none => .error .overflow

theorem ofTotal_of_isDuration {total : Int} (h : IsDuration total) :
    ofTotal total = .ok ⟨total, h⟩ := by
  rw [ofTotal, ofNanoseconds?, dif_pos h]

theorem ofTotal_of_not_isDuration {total : Int} (h : ¬ IsDuration total) :
    ofTotal total = .error .overflow := by
  rw [ofTotal, ofNanoseconds?, dif_neg h]

/-- What components add up to makes the duration that is read, under the sign. -/
theorem ofChars_eq_of_amounts (sign : Sign) {amounts : List Amount} (hne : amounts ≠ []) :
    ofChars (sign.chars ++ amounts.flatMap Amount.chars) =
      match (amounts.map Amount.component).foldlM Component.addTo 0 with
      | .error fault => .error fault
      | .ok total => ofTotal (signed sign.isMinus total) := by
  rcases List.exists_cons_of_ne_nil hne with ⟨a, others, rfl⟩
  rcases a.exists_chars_eq_cons with ⟨c, rest, hchars, hrest, hplace⟩
  have hbody : (a :: others).flatMap Amount.chars =
      c :: (rest ++ others.flatMap Amount.chars) := by
    rw [List.flatMap_cons, hchars]
    rfl
  have hsign : sign.StandsBefore ((a :: others).flatMap Amount.chars) := by
    rw [hbody]
    exact sign.standsBefore_cons hplace _
  have hzero : ((a :: others).flatMap Amount.chars == ['0']) = false := by
    rw [hbody, beq_eq_false_iff_ne]
    intro h
    exact List.append_ne_nil_of_left_ne_nil hrest _ (List.cons.inj h).right
  have hempty : ((a :: others).flatMap Amount.chars).isEmpty = false := by
    rw [hbody]
    rfl
  unfold ofChars
  rw [hsign.splitSign_eq]
  simp only [hzero, hempty, Bool.false_eq_true, if_false, components_flatMap_chars]
  rfl

theorem fraction_lt_totalRange (a : Amount) :
    Nat.ofDigitChars 10 ((a.fraction?.getD []).take fractionPlaces) 0 * a.unit.nanoseconds <
      totalRange := by
  have hdigits : forall c, c ∈ (a.fraction?.getD []).take fractionPlaces -> c.isDigit = true :=
    fun c hc => a.isDigit_fraction c (List.mem_of_mem_take hc)
  have hlength : ((a.fraction?.getD []).take fractionPlaces).length ≤ fractionPlaces :=
    List.length_take_le _ _
  have hvalue : Nat.ofDigitChars 10 ((a.fraction?.getD []).take fractionPlaces) 0 <
      tenPow fractionPlaces :=
    Nat.lt_of_lt_of_le (Numeral.ofDigitChars_lt hdigits) (Numeral.tenPow_le hlength)
  have hunit : a.unit.nanoseconds ≤ TimeUnit.hour.nanoseconds := by
    cases a.unit <;> decide
  calc
    _ ≤ tenPow fractionPlaces * TimeUnit.hour.nanoseconds :=
      Nat.mul_le_mul (Nat.le_of_lt hvalue) hunit
    _ < totalRange := by decide

/-- A row of amounts is read as the duration of its exact total under the sign. If there
is no such duration it is refused, unless a fraction carries the total away, which traps.
Apart from that sum nothing that is worked out on the way can be too large. -/
theorem ofChars_amounts (sign : Sign) {amounts : List Amount} (hne : amounts ≠ []) :
    (forall hrange : IsDuration (signed sign.isMinus (totalNanoseconds amounts)),
        ofChars (sign.chars ++ amounts.flatMap Amount.chars) = .ok ⟨_, hrange⟩) ∧
      (¬ IsDuration (signed sign.isMinus (totalNanoseconds amounts)) ->
        ¬ CarriesFrom 0 amounts ->
        ofChars (sign.chars ++ amounts.flatMap Amount.chars) = .error .overflow) ∧
      (CarriesFrom 0 amounts ->
        ofChars (sign.chars ++ amounts.flatMap Amount.chars) = .error .trap) ∧
      forall a, a ∈ amounts ->
        Nat.ofDigitChars 10 ((a.fraction?.getD []).take fractionPlaces) 0 *
          a.unit.nanoseconds < totalRange := by
  have hread := ofChars_eq_of_amounts sign hne
  have hadd (h : ¬ CarriesFrom 0 amounts) := foldlM_addTo_components h (Nat.zero_le _)
  rw [Nat.zero_add] at hadd
  refine ⟨?_, ?_, ?_, fun a _ => fraction_lt_totalRange a⟩
  · intro hrange
    have htotal := isDuration_signed_le hrange
    have hcarries : ¬ CarriesFrom 0 amounts :=
      not_carriesFrom_of_le (Nat.le_trans (Nat.le_of_eq (Nat.zero_add _)) htotal)
    rw [hread, hadd hcarries, if_pos htotal]
    exact ofTotal_of_isDuration hrange
  · intro hrange hcarries
    rw [hread, hadd hcarries]
    by_cases htotal : totalNanoseconds amounts ≤ maxMagnitude
    · rw [if_pos htotal]
      exact ofTotal_of_not_isDuration hrange
    · rw [if_neg htotal]
  · intro hcarries
    rw [hread, foldlM_addTo_of_carriesFrom hcarries]

/-- The longest duration, which there is only with a minus. -/
theorem ofChars_amounts_of_longest :
    let hours : Amount := ⟨"2562047".toList, none, .hour, ['h'],
      by simp, List.forall_mem_nil _, by decide, rfl⟩
    let minutes : Amount := ⟨"47".toList, none, .minute, ['m'],
      by simp, List.forall_mem_nil _, by decide, rfl⟩
    let seconds : Amount := ⟨"16".toList, some "854775808".toList, .second, ['s'],
      by simp, by simp, by decide, rfl⟩
    let amounts := [hours, minutes, seconds]
    amounts ≠ [] ∧ totalNanoseconds amounts = 9223372036854775808 ∧
      (exists d, ofChars "-2562047h47m16.854775808s".toList = .ok d ∧
        d.nanoseconds = -9223372036854775808) ∧
      ¬ CarriesFrom 0 amounts ∧
      ofChars "+2562047h47m16.854775808s".toList = .error .overflow := by
  intro hours minutes seconds amounts
  have hne : amounts ≠ [] := List.cons_ne_nil _ _
  have htotal : totalNanoseconds amounts = 9223372036854775808 := by decide
  have hcarries : ¬ CarriesFrom 0 amounts := by decide
  have hminus : IsDuration (signed Sign.minus.isMinus (totalNanoseconds amounts)) := by
    rw [htotal]
    decide
  have hplus : ¬ IsDuration (signed Sign.plus.isMinus (totalNanoseconds amounts)) := by
    rw [htotal]
    decide
  have hread := (ofChars_amounts .minus hne).left hminus
  have hrefused := (ofChars_amounts .plus hne).right.left hplus hcarries
  refine ⟨hne, htotal, ⟨_, hread, ?_⟩, hcarries, hrefused⟩
  show signed Sign.minus.isMinus (totalNanoseconds amounts) = _
  rw [htotal]
  rfl

/-- One nanosecond more than 128 bits can tell, for which there is no duration, but which
is not refused either. -/
theorem ofChars_microseconds_carried :
    let edge : Amount := ⟨"340282366920938463463374607431768211".toList, some "456".toList,
      .microsecond, ['u', 's'], by simp, by simp, by decide, rfl⟩
    Sign.absent.chars ++ [edge].flatMap Amount.chars =
        "340282366920938463463374607431768211.456us".toList ∧
      ¬ IsDuration (totalNanoseconds [edge]) ∧
      ofChars "340282366920938463463374607431768211.456us".toList = .error .trap := by
  intro edge
  have hcarries : CarriesFrom 0 [edge] := by decide
  have hread := ofChars_eq_of_amounts .absent (List.cons_ne_nil edge [])
  rw [foldlM_addTo_of_carriesFrom hcarries] at hread
  exact ⟨by decide, by decide, hread⟩

end Duration
end Reckon
