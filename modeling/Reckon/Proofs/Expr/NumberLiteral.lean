import Reckon.Proofs.Expr.ChainReading
import Reckon.Proofs.Expr.Loop
import Reckon.Proofs.Token.Numbers

/-!
# Numbers as literals

A text that is one number, with or without a minus sign in front of it, is read
as one literal, and nothing is left to be read behind it. The sign is part of the
text that the value is read from.
-/

namespace Reckon
namespace Parser

open TokenSource
open Numeral (signChars)

theorem OperandWords.parse_ofChars {cs : List Char} {v : Value}
    (h : OperandWords (Lexer.ofChars cs).words v) (limit : Nat) :
    exists after, parse limit (TokenBuffer.ofChars cs) =
        (.ok (.expression (.literal v)), after) ∧
      (parse limit after).1 = .ok .endOfInput := by
  let last := (Lexer.ofChars cs).endToken
  have hreads : forall more, Reads limit (limit + 1)
      ((Lexer.ofChars cs).words ++ last :: more) (.ok (.expression (.literal v)))
      ([] ++ last :: more) :=
    fun more => Reads.operand (h.starts (last :: more)) rfl rfl
  rcases delivers_parse hreads (TokenBuffer.delivers_ofChars cs) with
    ⟨after, hparse, hafter⟩
  have hend : (scanWord after).1.kind = .endOfInput := by
    rw [hafter.scanWord_nil.left]
    rfl
  refine ⟨after, hparse, ?_⟩
  rw [parse_of_endOfInput hend]

theorem operandWords_signed {form : LiteralForm} {cs : List Char} {v : Value}
    {negative : Bool} (hnumber : Scan.IsNumber form cs)
    (hform : numberForm? (.literal form) = some form)
    (hread : form.read (signChars negative ++ cs) = .ok v) :
    OperandWords (Lexer.ofChars (signChars negative ++ cs)).words v := by
  rw [Lexer.words, Lexer.tokens_signed hnumber]
  cases negative with
  | false => exact .literal rfl hread
  | true => exact .signed rfl hform hread

end Parser
end Reckon
