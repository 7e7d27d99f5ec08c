import Reckon.Proofs.Decimal.Display
import Reckon.Proofs.Expr.NumberLiteral
import Reckon.Value.Text

/-!
# Decimals as literals

The text of a decimal is a literal. It denotes the decimal rounded to the sixteen
digits that are shown, and the literal is shown by the same text again.
-/

namespace Reckon

/-!
## Exponents that can be read back
-/

namespace Decimal

/-- The exponents at which a decimal can be written and read back with 64 bits: those
of its sixteen digits, and of one digit more after a carry. -/
def InExponentRange (d : Decimal) : Prop :=
  -9223372036854775792 ≤ d.leadingExponent ∧ d.leadingExponent ≤ 9223372036854775806

theorem isScale_of_spelledBy {d : Decimal} {s : Scientific} (h : SpelledBy d s)
    (hrange : d.coefficient ≠ 0 -> InExponentRange d) :
    isScale (15 - s.power) = true := by
  rw [isScale, Bool.and_eq_true, decide_eq_true_eq, decide_eq_true_eq]
  by_cases hzero : d.coefficient = 0
  · rw [h.power_eq_zero hzero]
    decide
  · have hnear := h.power_near hzero
    have hbounds := hrange hzero
    rw [InExponentRange] at hbounds
    omega

end Decimal

/-!
## Reading what is shown
-/

namespace Parser

open TokenSource
open Lexer (signTokens)
open Numeral (signChars)

/-- The text of a decimal is a number in scientific notation, with a minus sign just for
negative numbers and a zero as its first digit just for zero. It denotes a number of the
same sign that is less than one unit of the sixteenth digit away, and at most half a unit if
the decimal is positive. The text is one token, the sign apart, and is read as a literal
that is shown by the same text, with nothing left behind it. -/
theorem parse_decimal_chars (limit : Nat) (d : Decimal)
    (hrange : d.toRat ≠ 0 -> d.InExponentRange) :
    exists s : Scientific, (Value.decimal d).chars = s.chars ∧
      (s.negative = true <-> d.toRat < 0) ∧ (s.lead = '0' <-> d.toRat = 0) ∧
      SignType.sign s.toRat = SignType.sign d.toRat ∧
      |s.toRat - d.toRat| < 10 ^ (Int.log 10 |d.toRat| - 15) ∧
      (0 < d.toRat -> 2 * |s.toRat - d.toRat| ≤ 10 ^ (Int.log 10 |d.toRat| - 15)) ∧
      (Lexer.ofChars s.chars).tokens = signTokens s.negative ++
        [⟨.literal .decimal, Position.start.advance (signChars s.negative),
          s.magnitudeChars⟩] ∧
      exists (w : Decimal) (after : TokenBuffer),
        parse limit (TokenBuffer.ofChars s.chars) =
          (.ok (.expression (.literal (.decimal w))), after) ∧
        (parse limit after).1 = .ok .endOfInput ∧
        w.toRat = s.toRat ∧ (Value.decimal w).chars = s.chars := by
  rcases d.exists_spelledBy with ⟨s, hs⟩
  have hzero : d.toRat ≠ 0 <-> d.coefficient ≠ 0 := not_congr Decimal.toRat_eq_zero_iff
  have hread : LiteralForm.read .decimal s.chars = .ok (.decimal s.decimal) := by
    have hscale := Decimal.isScale_of_spelledBy hs fun h => hrange (hzero.mpr h)
    simp only [LiteralForm.read, s.ofChars_chars hscale]
  have herror := d.abs_shown_sub_lt
  rw [← hs.toRat_eq] at herror
  rcases (operandWords_signed s.isNumber rfl hread).parse_ofChars limit with
    ⟨after, hparse, hend⟩
  refine ⟨s, hs.chars_eq, ?_, ?_, ?_, herror.left, herror.right, ?_, s.decimal, after, hparse,
    hend, s.toRat_decimal, hs.chars_decimal⟩
  · rw [hs.negative_iff, Decimal.toRat_neg_iff]
  · rw [hs.lead_eq_zero_iff, Decimal.toRat_eq_zero_iff]
  · rw [hs.toRat_eq, Decimal.sign_toRat_shown]
  · exact Lexer.tokens_signed s.isNumber s.negative

/-- Sixteen nines and a five are shown as a one, with the exponent that is one more. -/
theorem parse_decimal_chars_of_carry :
    (Decimal.mk 99999999999999995 3).InExponentRange ∧
      exists s : Scientific,
        s.chars = "1.000000000000000E+14".toList ∧
        |s.toRat - (Decimal.mk 99999999999999995 3).toRat| <
          10 ^ (Int.log 10 |(Decimal.mk 99999999999999995 3).toRat| - 15) ∧
        exists (w : Decimal) (after : TokenBuffer),
          parse 256 (TokenBuffer.ofChars s.chars) =
            (.ok (.expression (.literal (.decimal w))), after) ∧
          (parse 256 after).1 = .ok .endOfInput ∧ (Value.decimal w).chars = s.chars := by
  have hrange : (Decimal.mk 99999999999999995 3).InExponentRange := by
    have hexponent : (Decimal.mk 99999999999999995 3).leadingExponent = 13 := by
      decide +kernel
    rw [Decimal.InExponentRange, hexponent]
    decide
  have htext : (Value.decimal ⟨99999999999999995, 3⟩).chars =
      "1.000000000000000E+14".toList := by
    decide +kernel
  rcases parse_decimal_chars 256 ⟨99999999999999995, 3⟩ (fun _ => hrange) with
    ⟨s, hchars, -, -, -, herror, -, -, w, after, hparse, hend, -, hagain⟩
  refine ⟨hrange, s, ?_, herror, w, after, hparse, hend, hagain⟩
  rw [← hchars, htext]

end Parser
end Reckon
