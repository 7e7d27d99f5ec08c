import Mathlib.Data.List.TakeWhile
import Reckon.Decimal.Numeral
import Reckon.Proofs.Duration.Amounts
import Reckon.Proofs.Token.Numbers

/-!
# What a number token looks like

The scanner splits a number off a text by looking at what follows. What it has split
off has a shape of its own: digits, perhaps a fraction, and behind it nothing, an
exponent or units. A token of this shape is split off again wherever a space or the
end of the text follows it.
-/

namespace Reckon

namespace Text

theorem StopsRun.append {p : Char -> Bool} {cs after tail : List Char}
    (h : StopsRun p (cs ++ after)) (htail : StopsRun p tail) : StopsRun p (cs ++ tail) := by
  cases cs with
  | nil => exact htail
  | cons c cs => exact h

theorem stopsRun_dropWhile (p : Char -> Bool) (cs : List Char) :
    StopsRun p (cs.dropWhile p) := by
  intro c h
  have hnot := List.head?_dropWhile_not p cs
  rw [h] at hnot
  exact hnot

theorem takeWhile_eq_nil_iff {p : Char -> Bool} {cs : List Char} :
    cs.takeWhile p = [] <-> StopsRun p cs := by
  constructor
  · intro h
    have hdrop := stopsRun_dropWhile p cs
    have happend := List.takeWhile_append_dropWhile (p := p) (l := cs)
    rw [h, List.nil_append] at happend
    rwa [happend] at hdrop
  · intro h
    rw [← List.nil_append cs]
    exact takeWhile_append (List.forall_mem_nil _) h

end Text

namespace Scan

open Decimal (isExponentMark)
open Duration (placesChars)
open Numeral (pointChars isPlaceChar)

/-!
## Spaces behind a token
-/

/-- Whether a text keeps apart from what stands in front of it: it is empty or begins
with a space. -/
def Apart (tail : List Char) : Prop :=
  Text.StopsRun (· != ' ') tail

theorem apart_nil : Apart [] :=
  Text.stopsRun_nil _

theorem apart_space (cs : List Char) : Apart (' ' :: cs) :=
  Text.stopsRun_cons rfl

theorem Apart.stopsRun {p : Char -> Bool} (hp : p ' ' = false) {tail : List Char}
    (h : Apart tail) : Text.StopsRun p tail := by
  intro c hc
  have hspace : c = ' ' := by simpa using h c hc
  rw [hspace, hp]

/-!
## Units
-/

/-- Letters, and behind them as often as need be a number and more letters. Only the
last letters may be missing. -/
inductive Units : List Char -> Prop where
  | letters {letters : List Char} :
      (forall c, c ∈ letters -> Unicode.isAlphabetic c = true) -> Units letters
  | number {letters whole : List Char} {fraction? : Option (List Char)} {rest : List Char} :
      letters ≠ [] -> (forall c, c ∈ letters -> Unicode.isAlphabetic c = true) ->
      whole ≠ [] -> (forall c, c ∈ whole -> c.isDigit = true) ->
      (forall c, c ∈ fraction?.getD [] -> c.isDigit = true) -> Units rest ->
      Units (letters ++ (whole ++ (placesChars fraction? ++ rest)))

theorem isPlaceChar_of_isAlphabetic {c : Char} (h : Unicode.isAlphabetic c = true) :
    isPlaceChar c = false := by
  cases hplace : isPlaceChar c with
  | false => rfl
  | true =>
      rcases Bool.or_eq_true_iff.mp hplace with hdigit | hpoint
      · rw [isAlphabetic_of_isDigit hdigit] at h
        cases h
      · rw [beq_iff_eq.mp hpoint] at h
        exact absurd h (by decide)

theorem stopsRun_letters {letters : List Char} (hne : letters ≠ [])
    (hletters : forall c, c ∈ letters -> Unicode.isAlphabetic c = true) (rest : List Char) :
    Text.StopsRun isPlaceChar (letters ++ rest) := by
  rcases List.exists_cons_of_ne_nil hne with ⟨c, cs, rfl⟩
  exact Text.stopsRun_cons (isPlaceChar_of_isAlphabetic (hletters c List.mem_cons_self))

theorem Units.stopsRun {units tail : List Char} (h : Units units) (htail : Apart tail) :
    Text.StopsRun isPlaceChar (units ++ tail) := by
  cases h with
  | @letters units hunits =>
      by_cases hnil : units = []
      · rw [hnil]
        exact htail.stopsRun rfl
      · exact stopsRun_letters hnil hunits tail
  | number hne hletters _ _ _ _ =>
      rw [List.append_assoc]
      exact stopsRun_letters hne hletters _

theorem exists_placesChars (cs : List Char) :
    exists fraction? : Option (List Char), (splitPoint cs).1 = placesChars fraction? ∧
      forall c, c ∈ fraction?.getD [] -> c.isDigit = true := by
  unfold splitPoint
  split
  · next rest => exact ⟨some (rest.takeWhile Char.isDigit), rfl, fun c => List.mem_takeWhile_imp⟩
  · exact ⟨none, rfl, List.forall_mem_nil _⟩

theorem stopsRun_splitPoint {cs : List Char} (h : Text.StopsRun Char.isDigit cs) :
    Text.StopsRun Char.isDigit (splitPoint cs).2 := by
  unfold splitPoint
  split
  · exact Text.stopsRun_dropWhile _ _
  · exact h

theorem letters_ne_nil {cs : List Char} (h : Text.StopsRun Char.isDigit cs)
    (hne : (cs.dropWhile Unicode.isAlphabetic).takeWhile Char.isDigit ≠ []) :
    cs.takeWhile Unicode.isAlphabetic ≠ [] := by
  intro hnil
  have happend := List.takeWhile_append_dropWhile (p := Unicode.isAlphabetic) (l := cs)
  rw [hnil, List.nil_append] at happend
  rw [happend] at hne
  exact hne (Text.takeWhile_eq_nil_iff.mpr h)

theorem units_splitUnits {cs : List Char} (h : Text.StopsRun Char.isDigit cs) :
    Units (splitUnits cs).1 := by
  fun_induction splitUnits cs with
  | case1 cs unit afterUnit whole hnil =>
      exact .letters fun c => List.mem_takeWhile_imp
  | case2 cs unit afterUnit whole hne point hlt next ih =>
      have hunit : unit ≠ [] := letters_ne_nil h hne
      rcases exists_placesChars (afterUnit.dropWhile Char.isDigit) with
        ⟨fraction?, hpoint, hfraction⟩
      have hrest := ih (stopsRun_splitPoint (Text.stopsRun_dropWhile _ _))
      show Units (unit ++ whole ++ point.1 ++ next.1)
      rw [hpoint, List.append_assoc, List.append_assoc]
      exact .number hunit (fun c => List.mem_takeWhile_imp) hne
        (fun c => List.mem_takeWhile_imp) hfraction hrest

theorem splitPoint_placesChars {fraction? : Option (List Char)} {rest : List Char}
    (hfraction : forall c, c ∈ fraction?.getD [] -> c.isDigit = true)
    (hrest : Text.StopsRun isPlaceChar rest) :
    splitPoint (placesChars fraction? ++ rest) = (placesChars fraction?, rest) := by
  cases fraction? with
  | none =>
      show splitPoint (pointChars [] ++ rest) = (pointChars [], rest)
      exact splitPoint_pointChars (List.forall_mem_nil _) hrest
  | some fraction =>
      have hstops := Numeral.stopsRun_isDigit hrest
      rw [Option.getD_some] at hfraction
      show splitPoint ('.' :: (fraction ++ rest)) = ('.' :: fraction, rest)
      rw [splitPoint, Text.takeWhile_append hfraction hstops,
        Text.dropWhile_append hfraction hstops]

theorem Units.splitUnits_append {units tail : List Char} (h : Units units)
    (htail : Apart tail) : splitUnits (units ++ tail) = (units, tail) := by
  induction h with
  | @letters letters hletters =>
      have hstops : Text.StopsRun Unicode.isAlphabetic tail := htail.stopsRun (by decide)
      have hdrop := Text.dropWhile_append hletters hstops
      have hwhole : ((letters ++ tail).dropWhile Unicode.isAlphabetic).takeWhile
          Char.isDigit = [] := by
        rw [hdrop]
        exact Text.takeWhile_eq_nil_iff.mpr (htail.stopsRun rfl)
      rw [splitUnits, dif_pos hwhole, hdrop, Text.takeWhile_append hletters hstops]
  | @number letters whole fraction? rest hne hletters hwhole hdigits hfraction hrest ih =>
      have hstops := hrest.stopsRun htail
      have hpoint := splitPoint_placesChars hfraction hstops
      have hbehind := Duration.stopsRun_placesChars fraction? (Numeral.stopsRun_isDigit hstops)
      have hsplit := splitUnits_of_point hletters hwhole hdigits hbehind hpoint
      rw [ih] at hsplit
      simp only [List.append_assoc] at hsplit ⊢
      exact hsplit

/-!
## Exponents
-/

/-- The signs in front of a number, or none. -/
def signTexts : List (List Char) :=
  [[], ['+'], ['-']]

theorem mem_signTexts {sign : List Char} :
    sign ∈ signTexts <-> sign = [] ∨ sign = ['+'] ∨ sign = ['-'] := by
  simp [signTexts]

/-- A mark, perhaps a sign, and digits. -/
inductive Exponent : List Char -> Prop where
  | intro {mark : Char} {sign digits : List Char} :
      isExponentMark mark = true -> sign ∈ signTexts -> digits ≠ [] ->
      (forall c, c ∈ digits -> c.isDigit = true) -> Exponent (mark :: (sign ++ digits))

theorem fst_splitSign_mem (cs : List Char) : (splitSign cs).1 ∈ signTexts := by
  unfold splitSign
  split
  · next c rest =>
      split
      · next hsign =>
          rcases Bool.or_eq_true_iff.mp hsign with h | h
          · simp [signTexts, beq_iff_eq.mp h]
          · simp [signTexts, beq_iff_eq.mp h]
      · simp [signTexts]
  · simp [signTexts]

theorem splitSign_digits {sign digits : List Char} (hsign : sign ∈ signTexts)
    (hne : digits ≠ []) (hdigits : forall c, c ∈ digits -> c.isDigit = true)
    (rest : List Char) : splitSign (sign ++ (digits ++ rest)) = (sign, digits ++ rest) := by
  rcases List.exists_cons_of_ne_nil hne with ⟨c, cs, rfl⟩
  have hc : (c == '+' || c == '-') = false :=
    Numeral.eq_of_isDigit (f := fun c => c == '+' || c == '-') (by decide)
      (hdigits c List.mem_cons_self)
  rcases mem_signTexts.mp hsign with rfl | rfl | rfl
  · show splitSign (c :: (cs ++ rest)) = _
    rw [splitSign, hc]
    rfl
  · rfl
  · rfl

theorem exponent_of_splitExponent? {cs exponent rest : List Char}
    (h : splitExponent? cs = some (exponent, rest)) : Exponent exponent := by
  unfold splitExponent? at h
  split at h
  · next c behind =>
      split at h
      · next hmark =>
          dsimp only at h
          split at h
          · cases h
          · next hdigits =>
              cases h
              rw [List.cons_append]
              exact .intro hmark (fst_splitSign_mem behind) (by simpa using hdigits)
                fun c => List.mem_takeWhile_imp
      · cases h
  · cases h

theorem Exponent.splitExponent?_append {exponent tail : List Char} (h : Exponent exponent)
    (htail : Apart tail) : splitExponent? (exponent ++ tail) = some (exponent, tail) := by
  cases h with
  | @intro mark sign digits hmark hsign hne hdigits =>
      have hstops : Text.StopsRun Char.isDigit tail := htail.stopsRun rfl
      have hcond : (mark == 'e' || mark == 'E') = true := hmark
      rw [List.cons_append, List.append_assoc, splitExponent?, if_pos hcond,
        splitSign_digits hsign hne hdigits]
      dsimp only
      rw [Text.takeWhile_append hdigits hstops, Text.dropWhile_append hdigits hstops,
        if_neg (by simpa using hne), List.cons_append]

theorem isPlaceChar_of_isExponentMark {c : Char} (h : isExponentMark c = true) :
    isPlaceChar c = false := by
  rcases Bool.or_eq_true_iff.mp h with hmark | hmark
  · rw [beq_iff_eq.mp hmark]
    rfl
  · rw [beq_iff_eq.mp hmark]
    rfl

theorem Exponent.stopsRun {exponent : List Char} (h : Exponent exponent)
    (rest : List Char) : Text.StopsRun isPlaceChar (exponent ++ rest) := by
  cases h with
  | intro hmark _ _ _ => exact Text.stopsRun_cons (isPlaceChar_of_isExponentMark hmark)

theorem splitExponent?_cons_eq_none_iff {c : Char} {rest : List Char} :
    splitExponent? (c :: rest) = none <->
      (isExponentMark c = true -> Text.StopsRun Char.isDigit (splitSign rest).2) := by
  cases hmark : isExponentMark c with
  | false =>
      have hcond : ¬ (c == 'e' || c == 'E') = true := Bool.eq_false_iff.mp hmark
      rw [splitExponent?, if_neg hcond]
      simp
  | true =>
      have hcond : (c == 'e' || c == 'E') = true := hmark
      rw [splitExponent?, if_pos hcond]
      dsimp only
      rw [← Text.takeWhile_eq_nil_iff, imp_iff_right rfl, ← List.isEmpty_iff]
      split
      · next hempty => exact iff_of_true rfl hempty
      · next hempty => exact iff_of_false (Option.some_ne_none _) hempty

theorem snd_splitSign_append {cs : List Char} (hne : cs ≠ []) (after : List Char) :
    (splitSign (cs ++ after)).2 = (splitSign cs).2 ++ after := by
  rcases List.exists_cons_of_ne_nil hne with ⟨c, rest, rfl⟩
  rw [List.cons_append, splitSign, splitSign]
  split
  · rfl
  · rfl

theorem Apart.splitSign_eq {tail : List Char} (h : Apart tail) :
    splitSign tail = ([], tail) := by
  cases tail with
  | nil => rfl
  | cons c rest =>
      have hsign : (c == '+' || c == '-') = false :=
        h.stopsRun (p := fun c => c == '+' || c == '-') rfl c rfl
      rw [splitSign, hsign]
      rfl

theorem splitExponent?_append_eq_none {cs after tail : List Char}
    (h : splitExponent? (cs ++ after) = none) (htail : Apart tail) :
    splitExponent? (cs ++ tail) = none := by
  cases cs with
  | nil =>
      cases tail with
      | nil => rfl
      | cons c rest =>
          rw [List.nil_append, splitExponent?_cons_eq_none_iff]
          intro hmark
          exact absurd hmark (Bool.eq_false_iff.mp (htail.stopsRun (by decide) c rfl))
  | cons c rest =>
      rw [List.cons_append, splitExponent?_cons_eq_none_iff] at h ⊢
      intro hmark
      by_cases hnil : rest = []
      · rw [hnil, List.nil_append, htail.splitSign_eq]
        exact htail.stopsRun rfl
      · rw [snd_splitSign_append hnil]
        have hbehind := h hmark
        rw [snd_splitSign_append hnil] at hbehind
        exact hbehind.append (htail.stopsRun rfl)

theorem Apart.splitExponent?_eq_none {tail : List Char} (h : Apart tail) :
    splitExponent? tail = none := by
  have hnil : splitExponent? ([] ++ []) = none := rfl
  exact splitExponent?_append_eq_none hnil h

/-!
## Numbers
-/

/-- What stands behind the digits and the fraction of a number of a form. -/
inductive Ending : LiteralForm -> List Char -> List Char -> Prop where
  | integer : Ending .integer [] []
  | decimal {fraction : List Char} : fraction ≠ [] -> Ending .decimal fraction []
  | exponent {fraction exponent : List Char} :
      Exponent exponent -> Ending .decimal fraction exponent
  | duration {fraction units : List Char} :
      startsAlphabetic units = true -> splitExponent? units = none -> Units units ->
      Ending .duration fraction units

/-- The parts of a number of a form. -/
inductive NumberShape (form : LiteralForm) : List Char -> Prop where
  | intro {whole fraction ending : List Char} :
      whole ≠ [] -> (forall c, c ∈ whole -> c.isDigit = true) ->
      (forall c, c ∈ fraction -> c.isDigit = true) -> Ending form fraction ending ->
      NumberShape form (whole ++ (pointChars fraction ++ ending))

theorem exists_pointChars (cs : List Char) :
    exists fraction, (splitFraction cs).1 = pointChars fraction ∧
      forall c, c ∈ fraction -> c.isDigit = true := by
  unfold splitFraction
  split
  · next c rest =>
      split
      · next hdigit =>
          refine ⟨c :: rest.takeWhile Char.isDigit, rfl, fun d hd => ?_⟩
          rcases List.mem_cons.mp hd with rfl | hd
          · exact hdigit
          · exact List.mem_takeWhile_imp hd
      · exact ⟨[], rfl, List.forall_mem_nil _⟩
  · exact ⟨[], rfl, List.forall_mem_nil _⟩

theorem stopsRun_splitFraction {cs : List Char} (h : Text.StopsRun Char.isDigit cs) :
    Text.StopsRun Char.isDigit (splitFraction cs).2 := by
  unfold splitFraction
  split
  · split
    · exact Text.stopsRun_dropWhile _ _
    · exact h
  · exact h

theorem startsAlphabetic_splitUnits {cs : List Char} (h : startsAlphabetic cs = true) :
    startsAlphabetic (splitUnits cs).1 = true := by
  cases cs with
  | nil => cases h
  | cons c rest =>
      have hunit : (c :: rest).takeWhile Unicode.isAlphabetic =
          c :: rest.takeWhile Unicode.isAlphabetic := List.takeWhile_cons_of_pos h
      rw [splitUnits]
      dsimp only
      split
      · rw [hunit]
        exact h
      · rw [hunit]
        exact h

/-- A number token has the shape of a number of its form. -/
theorem exists_numberShape {c : Char} (hc : c.isDigit = true) (rest : List Char) :
    exists form, (number (c :: rest)).kind = .literal form ∧
      NumberShape form (number (c :: rest)).lexeme := by
  have hne : (c :: rest).takeWhile Char.isDigit ≠ [] := by
    rw [List.takeWhile_cons_of_pos hc]
    exact List.cons_ne_nil _ _
  have hstops := stopsRun_splitFraction
    (Text.stopsRun_dropWhile Char.isDigit (c :: rest))
  rcases exists_pointChars ((c :: rest).dropWhile Char.isDigit) with
    ⟨fraction, hpoint, hfraction⟩
  have hshape {form : LiteralForm} {ending : List Char} (hending : Ending form fraction ending) :=
    NumberShape.intro hne (fun c => List.mem_takeWhile_imp) hfraction hending
  unfold number
  dsimp only
  rw [hpoint]
  split
  · next hexponent =>
      refine ⟨.decimal, rfl, ?_⟩
      rw [List.append_assoc]
      exact hshape (.exponent (exponent_of_splitExponent? hexponent))
  · next hnone =>
      split
      · next hletter =>
          refine ⟨.duration, rfl, ?_⟩
          rw [← splitUnits_append (splitFraction _).2] at hnone
          have hunits := splitExponent?_append_eq_none hnone apart_nil
          rw [List.append_nil] at hunits
          rw [List.append_assoc]
          exact hshape (.duration (startsAlphabetic_splitUnits hletter) hunits
            (units_splitUnits hstops))
      · refine ⟨_, rfl, ?_⟩
        rw [← List.append_nil (pointChars fraction)]
        cases fraction with
        | nil => exact hshape .integer
        | cons d ds => exact hshape (.decimal (List.cons_ne_nil d ds))

theorem Apart.startsAlphabetic_eq {tail : List Char} (h : Apart tail) :
    startsAlphabetic tail = false := by
  cases tail with
  | nil => rfl
  | cons c rest => exact h.stopsRun (p := Unicode.isAlphabetic) (by decide) c rfl

theorem startsAlphabetic_append {cs : List Char} (h : startsAlphabetic cs = true)
    (rest : List Char) : startsAlphabetic (cs ++ rest) = true := by
  cases cs with
  | nil => cases h
  | cons c cs => exact h

theorem NumberShape.number_append {form : LiteralForm} {cs tail : List Char}
    (h : NumberShape form cs) (htail : Apart tail) :
    number (cs ++ tail) = ⟨.literal form, cs, tail⟩ := by
  cases h with
  | @intro whole fraction ending hne hwhole hfraction hending =>
      rw [List.append_assoc, List.append_assoc]
      cases hending with
      | integer =>
          rw [List.nil_append, number_of_neither hwhole hfraction (htail.stopsRun rfl)
            htail.splitExponent?_eq_none htail.startsAlphabetic_eq, List.append_nil]
          rfl
      | decimal hfraction_ne =>
          have hpoint : (pointChars fraction).isEmpty = false := by
            rw [pointChars, if_neg hfraction_ne]
            rfl
          rw [List.nil_append, number_of_neither hwhole hfraction (htail.stopsRun rfl)
            htail.splitExponent?_eq_none htail.startsAlphabetic_eq, List.append_nil, hpoint]
          rfl
      | exponent hexponent =>
          rw [number_of_exponent hwhole hfraction (hexponent.stopsRun tail)
            (hexponent.splitExponent?_append htail), List.append_assoc]
      | duration hletter hnone hunits =>
          rw [← List.append_nil ending] at hnone
          rw [number_of_units hwhole hfraction (hunits.stopsRun htail)
            (splitExponent?_append_eq_none hnone htail) (startsAlphabetic_append hletter tail),
            hunits.splitUnits_append htail, List.append_assoc]

end Scan
end Reckon
