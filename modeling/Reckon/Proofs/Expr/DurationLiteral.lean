import Reckon.Proofs.Duration.Grammar
import Reckon.Proofs.Duration.Spelling
import Reckon.Proofs.Expr.NumberLiteral
import Reckon.Value.Text

/-!
# Durations as literals

The text of a duration is a literal that denotes it, in whatever units it is
written. Other texts that are read as a duration are one literal too, unless one of
their numbers begins with its point or the first number ends with it.
-/

namespace Reckon
namespace Parser

open TokenSource
open Lexer (signTokens)
open Numeral (signChars)

/-- The text of a duration reads back as the duration. It is one token, with a minus
sign in front if the duration is negative, and is read as a literal of the duration
with nothing left behind it. -/
theorem parse_duration_chars (limit : Nat) (d : Duration) :
    Duration.ofChars (Value.duration d).chars = .ok d ∧
      (Lexer.ofChars (Value.duration d).chars).tokens =
        signTokens (d.nanoseconds < 0) ++
          [⟨.literal .duration, Position.start.advance (signChars (d.nanoseconds < 0)),
            Duration.magnitudeChars d.nanoseconds.natAbs⟩] ∧
      exists after, parse limit (TokenBuffer.ofChars (Value.duration d).chars) =
          (.ok (.expression (.literal (.duration d))), after) ∧
        (parse limit after).1 = .ok .endOfInput := by
  have hnumber : Scan.IsNumber .duration (Duration.magnitudeChars d.nanoseconds.natAbs) := by
    rcases Duration.exists_spelled d.nanoseconds.natAbs with ⟨parts, hne, hspelled, hchars⟩
    rw [hchars]
    exact hspelled.isNumber hne
  have hread : LiteralForm.read .duration d.chars = .ok (.duration d) := by
    simp only [LiteralForm.read, Duration.ofChars_chars]
  have htext : (Value.duration d).chars =
      signChars (d.nanoseconds < 0) ++ Duration.magnitudeChars d.nanoseconds.natAbs :=
    Duration.chars_eq d
  refine ⟨Duration.ofChars_chars d, ?_, ?_⟩
  · rw [htext]
    exact Lexer.tokens_signed hnumber _
  · rw [Duration.chars_eq] at hread
    rw [htext]
    exact (operandWords_signed hnumber rfl hread).parse_ofChars limit

/-!
## Other spellings
-/

theorem numberShape_of_tokens_eq {c : Char} {rest : List Char} (hc : c.isDigit = true)
    {position : Position}
    (h : (Lexer.ofChars (c :: rest)).tokens = [⟨.literal .duration, position, c :: rest⟩]) :
    Scan.NumberShape .duration (c :: rest) := by
  have hne : (Lexer.ofChars (c :: rest)).rest ≠ [] := List.cons_ne_nil c rest
  rw [Lexer.tokens_of_rest_ne_nil hne] at h
  have hnext : (Lexer.ofChars (c :: rest)).next.1 =
      ⟨.literal .duration, position, c :: rest⟩ := (List.cons.inj h).left
  simp only [Lexer.next, Lexer.ofChars, Scan.first_of_isDigit hc, Token.mk.injEq] at hnext
  rcases Scan.exists_numberShape hc rest with ⟨form, hkind, hshape⟩
  rw [hnext.right.right] at hshape
  rw [hnext.left] at hkind
  cases hkind
  exact hshape

/-- A text that begins with a digit and is read as a duration is a row of amounts, or a
lone zero. It is one token just if its amounts hold together, and then it is read as a
literal of the same duration with nothing left behind it. -/
theorem tokens_eq_duration_iff {cs : List Char} {d : Duration}
    (hdigit : exists c rest, cs = c :: rest ∧ c.isDigit = true) (hzero : cs ≠ ['0'])
    (hread : Duration.ofChars cs = .ok d) :
    exists a amounts, cs = (a :: amounts).flatMap Duration.Amount.chars ∧
      ((Lexer.ofChars cs).tokens = [⟨.literal .duration, Position.start, cs⟩] <->
        Duration.Joined a amounts) ∧
      (Duration.Joined a amounts -> forall limit, exists after,
        parse limit (TokenBuffer.ofChars cs) =
            (.ok (.expression (.literal (.duration d))), after) ∧
          (parse limit after).1 = .ok .endOfInput) := by
  rcases hdigit with ⟨c, rest, rfl, hc⟩
  have htext := Duration.isText_of_ofChars_eq_ok hread
  rcases htext.exists_amounts hc hzero with ⟨a, amounts, hchars⟩
  refine ⟨a, amounts, hchars, ⟨?_, ?_⟩, ?_⟩
  · intro htokens
    have hshape := numberShape_of_tokens_eq hc htokens
    rw [hchars] at hshape
    exact .of_numberShape hshape
  · intro hjoined
    rw [hchars]
    exact Lexer.tokens_number hjoined.isNumber _
  · intro hjoined limit
    have hnumber := hjoined.isNumber
    rw [← hchars] at hnumber
    have hliteral : LiteralForm.read .duration (signChars false ++ c :: rest) =
        .ok (.duration d) := by
      change LiteralForm.read .duration (c :: rest) = _
      simp only [LiteralForm.read, hread]
    exact (operandWords_signed hnumber rfl hliteral).parse_ofChars limit

theorem tokens_eq_duration_iff_of_minutes :
    let text := "1.5h2.m".toList
    exists d : Duration, d.nanoseconds = 5520000000000 ∧ Duration.ofChars text = .ok d ∧
      (Lexer.ofChars text).tokens = [⟨.literal .duration, Position.start, text⟩] ∧
      exists after, parse 256 (TokenBuffer.ofChars text) =
        (.ok (.expression (.literal (.duration d))), after) := by
  intro text
  let d : Duration := ⟨5520000000000, by decide⟩
  have hread : Duration.ofChars text = .ok d := by decide +kernel
  have htokens : (Lexer.ofChars text).tokens =
      [⟨.literal .duration, Position.start, text⟩] := by decide +kernel
  have hdigit : exists c rest, text = c :: rest ∧ c.isDigit = true := ⟨'1', _, rfl, by decide⟩
  rcases tokens_eq_duration_iff hdigit (by decide) hread with ⟨a, amounts, -, hiff, hparse⟩
  rcases hparse (hiff.mp htokens) 256 with ⟨after, hliteral, -⟩
  exact ⟨d, rfl, hread, htokens, after, hliteral⟩

/-- One number has a bare point behind its digits, the other one in front of them. -/
theorem tokens_of_bare_points :
    let second := "1.s".toList
    let minutes := "1h.5m".toList
    Duration.ofChars second = .ok ⟨1000000000, by decide⟩ ∧
      (Lexer.ofChars second).tokens.map Token.lexeme = [['1'], ['.'], ['s']] ∧
      Duration.ofChars minutes = .ok ⟨3630000000000, by decide⟩ ∧
      (Lexer.ofChars minutes).tokens.map Token.lexeme = [['1', 'h'], ['.'], ['5', 'm']] ∧
      (parse 256 (TokenBuffer.ofChars minutes)).1 =
        .ok (.expression (.literal (.duration ⟨3600000000000, by decide⟩))) := by
  decide +kernel

end Parser
end Reckon
