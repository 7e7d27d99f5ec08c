import Reckon.Proofs.Numeral.Places
import Reckon.Proofs.Token.Sequence

/-!
# Number tokens

A number is scanned from its digits over its fraction to its exponent or its
units. What comes of it is told here by the parts that it is made of, and from
there by the tokens of a text that is one number, with or without a minus sign in
front.
-/

namespace Reckon

open Numeral (pointChars isPlaceChar signChars)

namespace Scan

/-!
## Fractions
-/

theorem splitFraction_of_stops {cs : List Char} (h : Text.StopsRun isPlaceChar cs) :
    splitFraction cs = ([], cs) := by
  unfold splitFraction
  split
  · cases h '.' rfl
  · rfl

theorem splitFraction_pointChars {fraction rest : List Char}
    (hfraction : forall c, c ∈ fraction -> c.isDigit = true)
    (hrest : Text.StopsRun isPlaceChar rest) :
    splitFraction (pointChars fraction ++ rest) = (pointChars fraction, rest) := by
  have hstops : Text.StopsRun Char.isDigit rest := Numeral.stopsRun_isDigit hrest
  cases fraction with
  | nil => exact splitFraction_of_stops hrest
  | cons c ds =>
      have hds : forall d, d ∈ ds -> d.isDigit = true :=
        fun d hd => hfraction d (List.mem_cons_of_mem c hd)
      show splitFraction ('.' :: c :: (ds ++ rest)) = ('.' :: c :: ds, rest)
      rw [splitFraction, if_pos (hfraction c List.mem_cons_self),
        Text.takeWhile_append hds hstops, Text.dropWhile_append hds hstops]

theorem splitPoint_pointChars {fraction rest : List Char}
    (hfraction : forall c, c ∈ fraction -> c.isDigit = true)
    (hrest : Text.StopsRun isPlaceChar rest) :
    splitPoint (pointChars fraction ++ rest) = (pointChars fraction, rest) := by
  have hstops : Text.StopsRun Char.isDigit rest := Numeral.stopsRun_isDigit hrest
  cases fraction with
  | nil =>
      show splitPoint rest = ([], rest)
      unfold splitPoint
      split
      · cases hrest '.' rfl
      · rfl
  | cons c ds =>
      show splitPoint ('.' :: ((c :: ds) ++ rest)) = ('.' :: c :: ds, rest)
      rw [splitPoint, Text.takeWhile_append hfraction hstops,
        Text.dropWhile_append hfraction hstops]

/-!
## Units
-/

theorem isAlphabetic_of_isDigit {c : Char} (h : c.isDigit = true) :
    Unicode.isAlphabetic c = false :=
  Numeral.eq_of_isDigit (by decide) h

theorem splitUnits_of_point {letters whole point behind : List Char}
    (hletters : forall c, c ∈ letters -> Unicode.isAlphabetic c = true)
    (hne : whole ≠ []) (hwhole : forall c, c ∈ whole -> c.isDigit = true)
    (hstops : Text.StopsRun Char.isDigit (point ++ behind))
    (hpoint : splitPoint (point ++ behind) = (point, behind)) :
    splitUnits (letters ++ (whole ++ (point ++ behind))) =
      (letters ++ whole ++ point ++ (splitUnits behind).1, (splitUnits behind).2) := by
  have hnumber : Text.StopsRun Unicode.isAlphabetic (whole ++ (point ++ behind)) := by
    rcases List.exists_cons_of_ne_nil hne with ⟨c, rest, rfl⟩
    exact Text.stopsRun_cons (isAlphabetic_of_isDigit (hwhole c List.mem_cons_self))
  have htake := Text.takeWhile_append hletters hnumber
  have hdrop := Text.dropWhile_append hletters hnumber
  have hdigits : ((letters ++ (whole ++ (point ++ behind))).dropWhile
      Unicode.isAlphabetic).takeWhile Char.isDigit = whole := by
    rw [hdrop, Text.takeWhile_append hwhole hstops]
  have hbehind : splitPoint (((letters ++ (whole ++ (point ++ behind))).dropWhile
      Unicode.isAlphabetic).dropWhile Char.isDigit) = (point, behind) := by
    rw [hdrop, Text.dropWhile_append hwhole hstops, hpoint]
  rw [← hdigits] at hne
  rw [splitUnits, dif_neg hne]
  simp only [htake, hdigits, hbehind]

/-!
## Numbers by their parts
-/

theorem number_of_exponent {whole fraction behind exponent rest : List Char}
    (hwhole : forall c, c ∈ whole -> c.isDigit = true)
    (hfraction : forall c, c ∈ fraction -> c.isDigit = true)
    (hbehind : Text.StopsRun isPlaceChar behind)
    (hexponent : splitExponent? behind = some (exponent, rest)) :
    number (whole ++ (pointChars fraction ++ behind)) =
      ⟨.literal .decimal, whole ++ pointChars fraction ++ exponent, rest⟩ := by
  have hstops := Numeral.stopsRun_pointChars fraction hbehind
  unfold number
  rw [Text.takeWhile_append hwhole hstops, Text.dropWhile_append hwhole hstops,
    splitFraction_pointChars hfraction hbehind]
  simp only [hexponent]

theorem number_of_units {whole fraction behind : List Char}
    (hwhole : forall c, c ∈ whole -> c.isDigit = true)
    (hfraction : forall c, c ∈ fraction -> c.isDigit = true)
    (hbehind : Text.StopsRun isPlaceChar behind)
    (hexponent : splitExponent? behind = none) (hletter : startsAlphabetic behind = true) :
    number (whole ++ (pointChars fraction ++ behind)) =
      ⟨.literal .duration, whole ++ pointChars fraction ++ (splitUnits behind).1,
        (splitUnits behind).2⟩ := by
  have hstops := Numeral.stopsRun_pointChars fraction hbehind
  unfold number
  rw [Text.takeWhile_append hwhole hstops, Text.dropWhile_append hwhole hstops,
    splitFraction_pointChars hfraction hbehind]
  simp only [hexponent, if_pos hletter]

theorem number_of_neither {whole fraction behind : List Char}
    (hwhole : forall c, c ∈ whole -> c.isDigit = true)
    (hfraction : forall c, c ∈ fraction -> c.isDigit = true)
    (hbehind : Text.StopsRun isPlaceChar behind)
    (hexponent : splitExponent? behind = none) (hletter : startsAlphabetic behind = false) :
    number (whole ++ (pointChars fraction ++ behind)) =
      ⟨.literal (if (pointChars fraction).isEmpty then .integer else .decimal),
        whole ++ pointChars fraction, behind⟩ := by
  have hstops := Numeral.stopsRun_pointChars fraction hbehind
  unfold number
  rw [Text.takeWhile_append hwhole hstops, Text.dropWhile_append hwhole hstops,
    splitFraction_pointChars hfraction hbehind]
  simp only [hexponent, hletter, Bool.false_eq_true, if_false]

/-!
## Texts that are one number
-/

/-- A text that is one number token of a form from its first digit to its end. -/
structure IsNumber (form : LiteralForm) (cs : List Char) : Prop where
  starts : exists c rest, cs = c :: rest ∧ c.isDigit = true
  number_eq : number cs = ⟨.literal form, cs, []⟩

theorem first_of_isDigit {c : Char} (h : c.isDigit = true) (rest : List Char) :
    first c rest = number (c :: rest) := by
  have hspace : Unicode.isWhiteSpace c = false := Numeral.eq_of_isDigit (by decide) h
  have hslash : (c == '/') = false :=
    Numeral.eq_of_isDigit (f := fun c => c == '/') (by decide) h
  have hquote : (c == '"') = false :=
    Numeral.eq_of_isDigit (f := fun c => c == '"') (by decide) h
  simp only [first, startsComment, hspace, hslash, hquote, h, Bool.false_and,
    Bool.or_false, Bool.false_eq_true, if_false, if_true]

theorem first_minus {c : Char} (h : c.isDigit = true) (rest : List Char) :
    first '-' (c :: rest) = ⟨.binary .sub, ['-'], c :: rest⟩ := by
  have hpair : pairKind? '-' c = none := Numeral.eq_of_isDigit (by decide) h
  have hfirst : first '-' (c :: rest) = mark '-' (c :: rest) := rfl
  rw [hfirst, mark, hpair]
  rfl

end Scan

namespace Lexer

def signTokens (negative : Bool) : List Token :=
  if negative then [⟨.binary .sub, Position.start, ['-']⟩] else []

theorem tokens_number {form : LiteralForm} {cs : List Char} (h : Scan.IsNumber form cs)
    (position : Position) :
    (Lexer.mk cs position).tokens = [⟨.literal form, position, cs⟩] := by
  rcases h.starts with ⟨c, rest, rfl, hdigit⟩
  have hrest : (Lexer.mk (c :: rest) position).rest ≠ [] := List.cons_ne_nil c rest
  have hnext : (Lexer.mk (c :: rest) position).next =
      (⟨.literal form, position, c :: rest⟩, ⟨[], position.advance (c :: rest)⟩) := by
    simp only [Lexer.next, Scan.first_of_isDigit hdigit, h.number_eq]
  rw [tokens_of_rest_ne_nil hrest, hnext, tokens_of_rest_eq_nil rfl]

theorem tokens_signed {form : LiteralForm} {cs : List Char} (h : Scan.IsNumber form cs)
    (negative : Bool) :
    (Lexer.ofChars (signChars negative ++ cs)).tokens =
      signTokens negative ++
        [⟨.literal form, Position.start.advance (signChars negative), cs⟩] := by
  cases negative with
  | false => exact tokens_number h Position.start
  | true =>
      rcases h.starts with ⟨c, rest, rfl, hdigit⟩
      have hrest : (Lexer.ofChars ('-' :: c :: rest)).rest ≠ [] := List.cons_ne_nil _ _
      have hnext : (Lexer.ofChars ('-' :: c :: rest)).next =
          (⟨.binary .sub, Position.start, ['-']⟩,
            ⟨c :: rest, Position.start.advance ['-']⟩) := by
        simp only [Lexer.next, Lexer.ofChars, Scan.first_minus hdigit]
      show (Lexer.ofChars ('-' :: c :: rest)).tokens = _
      rw [tokens_of_rest_ne_nil hrest, hnext, tokens_number h]
      rfl

end Lexer
end Reckon
