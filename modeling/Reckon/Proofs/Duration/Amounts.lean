import Mathlib.Algebra.Ring.Nat
import Reckon.Duration.Numeral
import Reckon.Proofs.Numeral.Places

/-!
# Amounts

An amount is a component as it may be spelled: digits, perhaps a point and more
digits, and one of the names of a unit. A row of amounts is split into just these,
and adding them up comes to their sum or to an overflow, as long as no fraction
carries a total beyond what 128 bits can tell. Then it traps.
-/

namespace Reckon
namespace Duration

open Numeral (tenPow isPlaceChar)

/-!
## How amounts are spelled
-/

/-- A number of some unit. The number has digits before or behind its point, and the
unit goes by one of its names. -/
structure Amount where
  whole : List Char
  /-- What stands behind the point, if there is one. -/
  fraction? : Option (List Char)
  unit : TimeUnit
  name : List Char
  isDigit_whole : forall c, c ∈ whole -> c.isDigit = true
  isDigit_fraction : forall c, c ∈ fraction?.getD [] -> c.isDigit = true
  exists_digit : whole ≠ [] ∨ fraction?.getD [] ≠ []
  name_eq : TimeUnit.ofChars? name = some unit

/-- A point and the digits behind it, which may be none. -/
def placesChars : Option (List Char) -> List Char
  | none => []
  | some fraction => '.' :: fraction

namespace Amount

def chars (a : Amount) : List Char :=
  a.whole ++ (placesChars a.fraction? ++ a.name)

/-- The component that the amount is read as. -/
def component (a : Amount) : Component :=
  ⟨a.whole, a.fraction?.getD [], a.name⟩

/-!
## What amounts count
-/

def wholeNanoseconds (a : Amount) : Nat :=
  Nat.ofDigitChars 10 a.whole 0 * a.unit.nanoseconds

/-- The nanoseconds of the whole part and those of the fraction. -/
def nanoseconds (a : Amount) : Nat :=
  a.wholeNanoseconds + fractionNanoseconds (a.fraction?.getD []) a.unit

end Amount

/-- The nanoseconds of all amounts together. -/
def totalNanoseconds (amounts : List Amount) : Nat :=
  (amounts.map Amount.nanoseconds).sum

theorem totalNanoseconds_cons (a : Amount) (amounts : List Amount) :
    totalNanoseconds (a :: amounts) = a.nanoseconds + totalNanoseconds amounts :=
  List.sum_cons

/-!
## Reading amounts
-/

theorem TimeUnit.isUnitChar_of_ofChars? {name : List Char} {unit : TimeUnit}
    (h : ofChars? name = some unit) : name ≠ [] ∧ name.all isUnitChar = true := by
  unfold ofChars? at h
  split at h
  case h_9 => cases h
  all_goals exact ⟨List.cons_ne_nil _ _, by decide⟩

theorem isUnitChar_eq (c : Char) : isUnitChar c = !isPlaceChar c := rfl

theorem stopsRun_isPlaceChar {cs : List Char} (hne : cs ≠ [])
    (h : cs.all isUnitChar = true) (rest : List Char) :
    Text.StopsRun isPlaceChar (cs ++ rest) := by
  cases cs with
  | nil => exact absurd rfl hne
  | cons c cs =>
      have hc := List.all_eq_true.mp h c List.mem_cons_self
      rw [isUnitChar_eq] at hc
      exact Text.stopsRun_cons (by simpa using hc)

/-- Whether a number ends where a text begins: no digit follows, and no point either if
the number has none. -/
structure EndsNumber (fraction? : Option (List Char)) (rest : List Char) : Prop where
  stopsDigits : Text.StopsRun Char.isDigit rest
  stopsPoint : fraction? = none -> Text.StopsRun (· == '.') rest

theorem EndsNumber.of_stops {fraction? : Option (List Char)} {rest : List Char}
    (h : Text.StopsRun isPlaceChar rest) : EndsNumber fraction? rest where
  stopsDigits := Numeral.stopsRun_isDigit h
  stopsPoint _ c hc := (Bool.or_eq_false_iff.mp (h c hc)).right

theorem stopsRun_placesChars (fraction? : Option (List Char)) {rest : List Char}
    (hrest : Text.StopsRun Char.isDigit rest) :
    Text.StopsRun Char.isDigit (placesChars fraction? ++ rest) := by
  cases fraction? with
  | none => exact hrest
  | some fraction => exact Text.stopsRun_cons (by decide)

theorem splitFraction_placesChars {fraction? : Option (List Char)}
    (hdigits : forall c, c ∈ fraction?.getD [] -> c.isDigit = true) {rest : List Char}
    (hrest : EndsNumber fraction? rest) :
    splitFraction (placesChars fraction? ++ rest) = (fraction?.getD [], rest) := by
  cases fraction? with
  | none =>
      have hpoint : forall cs, rest = '.' :: cs -> False := by
        rintro cs rfl
        cases hrest.stopsPoint rfl '.' rfl
      exact splitFraction.eq_2 rest hpoint
  | some fraction =>
      have hstops := hrest.stopsDigits
      rw [Option.getD_some] at hdigits
      show ((fraction ++ rest).takeWhile Char.isDigit, (fraction ++ rest).dropWhile Char.isDigit)
        = (fraction, rest)
      rw [Text.takeWhile_append hdigits hstops, Text.dropWhile_append hdigits hstops]

theorem splitComponent_append {whole unit rest : List Char} {fraction? : Option (List Char)}
    (hwhole : forall c, c ∈ whole -> c.isDigit = true)
    (hfraction : forall c, c ∈ fraction?.getD [] -> c.isDigit = true)
    (hunit : forall c, c ∈ unit -> isUnitChar c = true)
    (hends : EndsNumber fraction? (unit ++ rest))
    (hrest : Text.StopsRun isUnitChar rest) :
    splitComponent (whole ++ (placesChars fraction? ++ (unit ++ rest))) =
      (⟨whole, fraction?.getD [], unit⟩, rest) := by
  have hplaces := stopsRun_placesChars fraction? hends.stopsDigits
  rw [splitComponent, Text.takeWhile_append hwhole hplaces,
    Text.dropWhile_append hwhole hplaces, splitFraction_placesChars hfraction hends,
    Text.takeWhile_append hunit hrest, Text.dropWhile_append hunit hrest]

namespace Amount

theorem splitComponent_chars_append (a : Amount) {rest : List Char}
    (hrest : Text.StopsRun isUnitChar rest) :
    splitComponent (a.chars ++ rest) = (a.component, rest) := by
  rcases TimeUnit.isUnitChar_of_ofChars? a.name_eq with ⟨hne, hall⟩
  rw [chars, List.append_assoc, List.append_assoc]
  exact splitComponent_append a.isDigit_whole a.isDigit_fraction (List.all_eq_true.mp hall)
    (.of_stops (stopsRun_isPlaceChar hne hall rest)) hrest

theorem exists_chars_eq_cons (a : Amount) :
    exists c rest, a.chars = c :: rest ∧ rest ≠ [] ∧ isPlaceChar c = true := by
  rcases List.exists_cons_of_ne_nil (TimeUnit.isUnitChar_of_ofChars? a.name_eq).left with
    ⟨letter, letters, hname⟩
  cases hwhole : a.whole with
  | cons c cs =>
      refine ⟨c, cs ++ (placesChars a.fraction? ++ a.name), ?_, ?_, ?_⟩
      · rw [chars, hwhole]
        rfl
      · rw [hname]
        simp
      · have hdigit := a.isDigit_whole c (hwhole ▸ List.mem_cons_self)
        rw [isPlaceChar, hdigit]
        rfl
  | nil =>
      cases hfraction : a.fraction? with
      | none =>
          rcases a.exists_digit with h | h
          · exact absurd hwhole h
          · rw [hfraction] at h
            exact absurd rfl h
      | some fraction =>
          refine ⟨'.', fraction ++ a.name, ?_, ?_, by decide⟩
          · rw [chars, hwhole, hfraction]
            rfl
          · rw [hname]
            simp

end Amount

theorem stopsRun_flatMap_chars_append (amounts : List Amount) {rest : List Char}
    (hrest : Text.StopsRun isUnitChar rest) :
    Text.StopsRun isUnitChar (amounts.flatMap Amount.chars ++ rest) := by
  cases amounts with
  | nil => exact hrest
  | cons a amounts =>
      rcases a.exists_chars_eq_cons with ⟨c, cs, hchars, -, hplace⟩
      rw [List.flatMap_cons, hchars]
      apply Text.stopsRun_cons
      rw [isUnitChar_eq, hplace]
      rfl

theorem components_nil : components [] = [] := by
  rw [components, dif_pos rfl]

theorem components_flatMap_chars_append (amounts : List Amount) {rest : List Char}
    (hrest : amounts ≠ [] -> Text.StopsRun isUnitChar rest) :
    components (amounts.flatMap Amount.chars ++ rest) =
      amounts.map Amount.component ++ components rest := by
  induction amounts with
  | nil => rfl
  | cons a amounts ih =>
      have hstops := hrest (List.cons_ne_nil _ _)
      have hbehind := stopsRun_flatMap_chars_append amounts hstops
      have hne : ¬ a.chars ++ (amounts.flatMap Amount.chars ++ rest) = [] := by
        rcases a.exists_chars_eq_cons with ⟨c, cs, hchars, -⟩
        rw [hchars]
        exact List.cons_ne_nil _ _
      rw [List.flatMap_cons, List.append_assoc, components, dif_neg hne]
      simp only [a.splitComponent_chars_append hbehind, ih fun _ => hstops, List.map_cons,
        List.cons_append]

theorem components_flatMap_chars (amounts : List Amount) :
    components (amounts.flatMap Amount.chars) = amounts.map Amount.component := by
  have hsplit := @components_flatMap_chars_append amounts []
    fun _ => Text.stopsRun_nil isUnitChar
  rw [List.append_nil, components_nil, List.append_nil] at hsplit
  exact hsplit

/-!
## Adding amounts up
-/

namespace Amount

/-- Whether the fraction, and not the whole part, brings a total beyond what 128 bits
can tell. -/
def Carries (a : Amount) (total : Nat) : Prop :=
  total + a.wholeNanoseconds < totalRange ∧ totalRange ≤ total + a.nanoseconds

instance (a : Amount) (total : Nat) : Decidable (a.Carries total) :=
  inferInstanceAs (Decidable (_ ∧ _))

theorem addTo_component (a : Amount) (total : Nat) :
    a.component.addTo total =
      if totalRange ≤ total + a.wholeNanoseconds then .error .overflow
      else if totalRange ≤ total + a.nanoseconds then .error .trap
      else if maxMagnitude < total + a.nanoseconds then .error .overflow
      else .ok (total + a.nanoseconds) := by
  have hdigits : (a.whole.isEmpty && (a.fraction?.getD []).isEmpty) = false := by
    rw [Bool.and_eq_false_iff, List.isEmpty_eq_false_iff, List.isEmpty_eq_false_iff]
    exact a.exists_digit
  have hname : a.name.isEmpty = false :=
    List.isEmpty_eq_false_iff.mpr (TimeUnit.isUnitChar_of_ofChars? a.name_eq).left
  unfold Component.addTo
  simp only [component, hdigits, hname, a.name_eq, Bool.false_eq_true, if_false, nanoseconds,
    wholeNanoseconds, Nat.add_assoc]
  rfl

theorem addTo_of_not_carries {a : Amount} {total : Nat} (h : ¬ a.Carries total) :
    a.component.addTo total =
      if total + a.nanoseconds ≤ maxMagnitude then .ok (total + a.nanoseconds)
      else .error .overflow := by
  have hrange : maxMagnitude < totalRange := by decide
  have hle : a.wholeNanoseconds ≤ a.nanoseconds := Nat.le_add_right _ _
  rw [addTo_component]
  by_cases hwhole : totalRange ≤ total + a.wholeNanoseconds
  · have hlarge : ¬ total + a.nanoseconds ≤ maxMagnitude := by omega
    rw [if_pos hwhole, if_neg hlarge]
  · have hfits : ¬ totalRange ≤ total + a.nanoseconds :=
      fun hcarry => h ⟨Nat.not_le.mp hwhole, hcarry⟩
    rw [if_neg hwhole, if_neg hfits]
    by_cases hsum : total + a.nanoseconds ≤ maxMagnitude
    · rw [if_pos hsum, if_neg (Nat.not_lt.mpr hsum)]
    · rw [if_neg hsum, if_pos (Nat.not_le.mp hsum)]

theorem addTo_of_carries {a : Amount} {total : Nat} (h : a.Carries total) :
    a.component.addTo total = .error .trap := by
  rw [addTo_component, if_neg (Nat.not_le.mpr h.left), if_pos h.right]

end Amount

/-- Whether, starting at a total, one of the amounts carries it beyond what 128 bits
can tell before it is refused. -/
def CarriesFrom : Nat -> List Amount -> Prop
  | _, [] => False
  | total, a :: amounts =>
      a.Carries total ∨
        total + a.nanoseconds ≤ maxMagnitude ∧ CarriesFrom (total + a.nanoseconds) amounts

instance CarriesFrom.decidable :
    (total : Nat) -> (amounts : List Amount) -> Decidable (CarriesFrom total amounts)
  | _, [] => isFalse id
  | total, a :: amounts =>
      have := CarriesFrom.decidable (total + a.nanoseconds) amounts
      inferInstanceAs (Decidable (_ ∨ _ ∧ _))

theorem not_carriesFrom_of_le {amounts : List Amount} {total : Nat}
    (h : total + totalNanoseconds amounts ≤ maxMagnitude) : ¬ CarriesFrom total amounts := by
  have hrange : maxMagnitude < totalRange := by decide
  induction amounts generalizing total with
  | nil => exact not_false
  | cons a amounts ih =>
      rw [totalNanoseconds_cons, ← Nat.add_assoc] at h
      rw [CarriesFrom, not_or]
      constructor
      · intro hcarries
        have hbeyond := hcarries.right
        omega
      · exact fun hrest => ih h hrest.right

/-- Amounts add up to their exact sum, or are refused where that is too large. -/
theorem foldlM_addTo_components {amounts : List Amount} {total : Nat}
    (h : ¬ CarriesFrom total amounts) (htotal : total ≤ maxMagnitude) :
    (amounts.map Amount.component).foldlM Component.addTo total =
      if total + totalNanoseconds amounts ≤ maxMagnitude then
        .ok (total + totalNanoseconds amounts)
      else .error .overflow := by
  induction amounts generalizing total with
  | nil =>
      show pure total = if total + 0 ≤ maxMagnitude then _ else _
      rw [Nat.add_zero, if_pos htotal]
      rfl
  | cons a amounts ih =>
      rw [CarriesFrom, not_or, not_and] at h
      rw [List.map_cons, List.foldlM_cons, Amount.addTo_of_not_carries h.left,
        totalNanoseconds_cons, ← Nat.add_assoc]
      by_cases hsum : total + a.nanoseconds ≤ maxMagnitude
      · rw [if_pos hsum]
        exact ih (h.right hsum) hsum
      · have hlarge : ¬ total + a.nanoseconds + totalNanoseconds amounts ≤ maxMagnitude :=
          fun hle => hsum (Nat.le_of_add_right_le hle)
        rw [if_neg hsum, if_neg hlarge]
        rfl

/-- A fraction that carries the total away makes a trap of the sum. -/
theorem foldlM_addTo_of_carriesFrom {amounts : List Amount} {total : Nat}
    (h : CarriesFrom total amounts) :
    (amounts.map Amount.component).foldlM Component.addTo total = .error .trap := by
  induction amounts generalizing total with
  | nil => exact absurd h not_false
  | cons a amounts ih =>
      rw [List.map_cons, List.foldlM_cons]
      rcases h with hcarries | ⟨hsum, hrest⟩
      · rw [Amount.addTo_of_carries hcarries]
        rfl
      · have hkept : ¬ a.Carries total := by
          have hrange : maxMagnitude < totalRange := by decide
          exact fun hcarries => absurd (Nat.le_trans hcarries.right hsum) (Nat.not_le.mpr hrange)
        rw [Amount.addTo_of_not_carries hkept, if_pos hsum]
        exact ih hrest

end Duration
end Reckon
