import Reckon.Proofs.Token.Shapes

/-!
# Amounts and the scanner

A scanner takes a number and the letters behind it for a duration, and every further
number that stands directly behind letters goes with it. This is stricter than what is
read as a row of amounts: all numbers have to begin with digits, and a point in the first
one needs digits on both of its sides.
-/

namespace Reckon
namespace Duration

open Numeral (pointChars isPlaceChar)
open Scan (Units)

/-!
## Units as the scanner sees them
-/

theorem TimeUnit.isAlphabetic_of_ofChars? {name : List Char} {unit : TimeUnit}
    (h : ofChars? name = some unit) : forall c, c ∈ name -> Unicode.isAlphabetic c = true := by
  have hall : name.all Unicode.isAlphabetic = true := by
    unfold ofChars? at h
    split at h
    case h_9 => cases h
    all_goals decide
  exact fun c => List.all_eq_true.mp hall c

theorem TimeUnit.splitExponent?_append {name : List Char} {unit : TimeUnit}
    (h : ofChars? name = some unit) (rest : List Char) :
    Scan.splitExponent? (name ++ rest) = none := by
  unfold ofChars? at h
  split at h
  case h_9 => cases h
  all_goals rfl

theorem isUnitChar_of_isAlphabetic {c : Char} (h : Unicode.isAlphabetic c = true) :
    isUnitChar c = true := by
  rw [isUnitChar_eq, Scan.isPlaceChar_of_isAlphabetic h]
  rfl

theorem stopsRun_isUnitChar {whole : List Char} (hne : whole ≠ [])
    (hwhole : forall c, c ∈ whole -> c.isDigit = true) (rest : List Char) :
    Text.StopsRun isUnitChar (whole ++ rest) := by
  rcases List.exists_cons_of_ne_nil hne with ⟨c, cs, rfl⟩
  apply Text.stopsRun_cons
  rw [isUnitChar, hwhole c List.mem_cons_self]
  rfl

theorem whole_ne_nil_of_mem_components {whole units : List Char}
    {fraction? : Option (List Char)} (hne : whole ≠ [])
    (hwhole : forall c, c ∈ whole -> c.isDigit = true)
    (hfraction : forall c, c ∈ fraction?.getD [] -> c.isDigit = true)
    (hunits : Units units) :
    forall part, part ∈ components (whole ++ (placesChars fraction? ++ units)) ->
      part.whole ≠ [] := by
  induction hunits generalizing whole fraction? with
  | @letters letters hletters =>
      have hsplit := splitComponent_append hwhole hfraction
        (fun c hc => isUnitChar_of_isAlphabetic (hletters c hc))
        (.of_stops ((Units.letters hletters).stopsRun Scan.apart_nil))
        (Text.stopsRun_nil isUnitChar)
      rw [List.append_nil] at hsplit
      intro part hpart
      rw [components, dif_neg (List.append_ne_nil_of_left_ne_nil hne _)] at hpart
      simp only [hsplit] at hpart
      rw [components_nil] at hpart
      rw [List.mem_singleton.mp hpart]
      exact hne
  | @number letters digits places? rest hletters_ne hletters hdigits_ne hdigits hplaces _ ih =>
      have hsplit := splitComponent_append hwhole hfraction
        (fun c hc => isUnitChar_of_isAlphabetic (hletters c hc))
        (.of_stops (Scan.stopsRun_letters hletters_ne hletters _))
        (stopsRun_isUnitChar hdigits_ne hdigits (placesChars places? ++ rest))
      intro part hpart
      rw [components, dif_neg (List.append_ne_nil_of_left_ne_nil hne _)] at hpart
      simp only [hsplit] at hpart
      rcases List.mem_cons.mp hpart with rfl | hpart
      · exact hne
      · exact ih hdigits_ne hdigits hplaces part hpart

theorem exists_placesChars_eq (fraction : List Char) :
    exists fraction? : Option (List Char), pointChars fraction = placesChars fraction? ∧
      fraction?.getD [] = fraction := by
  cases fraction with
  | nil => exact ⟨none, rfl, rfl⟩
  | cons c cs => exact ⟨some (c :: cs), rfl, rfl⟩

/-!
## Rows that are one token
-/

/-- Whether an amount and those behind it hold together as one token: all begin with
digits, and the first does not have a point without digits behind it. -/
structure Joined (a : Amount) (amounts : List Amount) : Prop where
  fraction?_ne : a.fraction? ≠ some []
  whole_ne_nil : forall b, b ∈ a :: amounts -> b.whole ≠ []

theorem chars_flatMap_cons (a : Amount) (amounts : List Amount) :
    (a :: amounts).flatMap Amount.chars =
      a.whole ++ (placesChars a.fraction? ++ (a.name ++ amounts.flatMap Amount.chars)) := by
  rw [List.flatMap_cons, Amount.chars, List.append_assoc, List.append_assoc]

theorem Amount.stopsRun_name_append (a : Amount) (rest : List Char) :
    Text.StopsRun isPlaceChar (a.name ++ rest) := by
  rcases TimeUnit.isUnitChar_of_ofChars? a.name_eq with ⟨hne, hall⟩
  exact stopsRun_isPlaceChar hne hall rest

theorem units_flatMap_chars (a : Amount) {amounts : List Amount}
    (h : forall b, b ∈ amounts -> b.whole ≠ []) :
    Units (a.name ++ amounts.flatMap Amount.chars) := by
  -- a name is read together with the number behind it, so the amount in front varies
  induction amounts generalizing a with
  | nil =>
      rw [List.flatMap_nil, List.append_nil]
      exact .letters (TimeUnit.isAlphabetic_of_ofChars? a.name_eq)
  | cons b amounts ih =>
      have hrest := ih b fun c hc => h c (List.mem_cons_of_mem b hc)
      rw [chars_flatMap_cons]
      exact .number (TimeUnit.isUnitChar_of_ofChars? a.name_eq).left
        (TimeUnit.isAlphabetic_of_ofChars? a.name_eq) (h b List.mem_cons_self)
        b.isDigit_whole b.isDigit_fraction hrest

/-- What holds together is one number token. -/
theorem Joined.isNumber {a : Amount} {amounts : List Amount} (h : Joined a amounts) :
    Scan.IsNumber .duration ((a :: amounts).flatMap Amount.chars) := by
  have hwhole := h.whole_ne_nil a List.mem_cons_self
  have hname := TimeUnit.isAlphabetic_of_ofChars? a.name_eq
  have hplaces : placesChars a.fraction? = pointChars (a.fraction?.getD []) := by
    have hfraction := h.fraction?_ne
    cases hpoint : a.fraction? with
    | none => rfl
    | some fraction =>
        cases fraction with
        | nil => exact absurd hpoint hfraction
        | cons d ds => rfl
  have hletter : Scan.startsAlphabetic (a.name ++ amounts.flatMap Amount.chars) = true := by
    rcases List.exists_cons_of_ne_nil (TimeUnit.isUnitChar_of_ofChars? a.name_eq).left with
      ⟨c, cs, hcons⟩
    rw [hcons] at hname ⊢
    exact hname c List.mem_cons_self
  have hunits := units_flatMap_chars a fun b hb => h.whole_ne_nil b (List.mem_cons_of_mem a hb)
  have hshape : Scan.NumberShape .duration ((a :: amounts).flatMap Amount.chars) := by
    rw [chars_flatMap_cons, hplaces]
    exact .intro hwhole a.isDigit_whole a.isDigit_fraction
      (.duration hletter (TimeUnit.splitExponent?_append a.name_eq _) hunits)
  constructor
  · rcases List.exists_cons_of_ne_nil hwhole with ⟨c, cs, hcons⟩
    refine ⟨c, cs ++ (placesChars a.fraction? ++ (a.name ++ amounts.flatMap Amount.chars)),
      ?_, a.isDigit_whole c (hcons ▸ List.mem_cons_self)⟩
    rw [chars_flatMap_cons, hcons]
    rfl
  · have hnumber := hshape.number_append Scan.apart_nil
    rw [List.append_nil] at hnumber
    exact hnumber

theorem pointChars_append_ne {fraction units behind : List Char}
    (hfraction : forall c, c ∈ fraction -> c.isDigit = true)
    (hletter : Scan.startsAlphabetic units = true) (hbehind : Text.StopsRun isPlaceChar behind) :
    pointChars fraction ++ units ≠ '.' :: behind := by
  intro h
  cases fraction with
  | nil =>
      change units = _ at h
      rw [h] at hletter
      change Unicode.isAlphabetic '.' = true at hletter
      exact absurd hletter (by decide)
  | cons d ds =>
      have hd : d.isDigit = true := hfraction d List.mem_cons_self
      change '.' :: d :: (ds ++ units) = _ at h
      cases h
      cases hd.symm.trans (Numeral.stopsRun_isDigit hbehind d rfl)

/-- A row of amounts that has the shape of a scanned duration holds together. -/
theorem Joined.of_numberShape {a : Amount} {amounts : List Amount}
    (h : Scan.NumberShape .duration ((a :: amounts).flatMap Amount.chars)) :
    Joined a amounts := by
  generalize hchars : (a :: amounts).flatMap Amount.chars = cs at h
  cases h with
  | @intro whole fraction units hne hwhole hfraction hending =>
      cases hending with
      | duration hletter _ hunits =>
          have hends := hunits.stopsRun Scan.apart_nil
          rw [List.append_nil] at hends
          constructor
          · intro hpoint
            have hname := a.stopsRun_name_append (amounts.flatMap Amount.chars)
            have hplaces := stopsRun_placesChars (some []) (Numeral.stopsRun_isDigit hname)
            have hdrop := congrArg (List.dropWhile Char.isDigit) hchars
            rw [chars_flatMap_cons, hpoint, Text.dropWhile_append a.isDigit_whole hplaces,
              Text.dropWhile_append hwhole (Numeral.stopsRun_pointChars fraction hends)] at hdrop
            exact pointChars_append_ne hfraction hletter hname hdrop.symm
          · rcases exists_placesChars_eq fraction with ⟨fraction?, hplaces, rfl⟩
            have hparts := whole_ne_nil_of_mem_components hne hwhole hfraction hunits
            rw [← hplaces, ← hchars, components_flatMap_chars] at hparts
            exact fun b hb => hparts b.component (List.mem_map_of_mem hb)

end Duration
end Reckon
