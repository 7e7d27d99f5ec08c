import Reckon.Proofs.Expr.ChainReading
import Reckon.Proofs.Expr.LiteralFaults
import Reckon.Proofs.Text.Escapes
import Reckon.Value.Text

/-!
# Strings as literals

The text of a string value is a literal that denotes it, whatever the characters
of the string are. What other texts between quotes denote is told by the grammar of
escapes.
-/

namespace Reckon

theorem Lexer.tokens_quote (cs : List Char) :
    (Lexer.ofChars (Text.quote cs)).tokens =
      [⟨.literal .string, Position.start, Text.quote cs⟩] := by
  have htext : Text.quote cs = '"' :: (cs.flatMap Text.encodeChar ++ ['"']) := rfl
  have hrest : (Lexer.ofChars (Text.quote cs)).rest ≠ [] := by
    rw [htext]
    exact List.cons_ne_nil _ _
  have hnext : (Lexer.ofChars (Text.quote cs)).next =
      (⟨.literal .string, Position.start, Text.quote cs⟩,
        ⟨[], Position.start.advance (Text.quote cs)⟩) := by
    rw [htext, Lexer.next]
    show (Token.mk (Scan.first '"' (cs.flatMap Text.encodeChar ++ ['"'])).kind _ _, _) = _
    rw [Scan.first_quote]
    rfl
  rw [Lexer.tokens_of_rest_ne_nil hrest, hnext, Lexer.tokens_of_rest_eq_nil rfl]

namespace Parser

open TokenSource

theorem reads_literal {t last : Token} {form : LiteralForm} {v : Value}
    (hkind : t.kind = .literal form) (hread : form.read t.lexeme = .ok v)
    (hlast : last.kind = .endOfInput) (limit : Nat) (more : List Token) :
    Reads limit (limit + 1) ([t] ++ last :: more) (.ok (.expression (.literal v)))
      ([] ++ last :: more) := by
  have hstarts := (OperandWords.literal hkind hread).starts (last :: more)
  apply Reads.operand hstarts
  · rw [hlast]
    rfl
  · rw [hlast]
    rfl

/-- The text of a string value is one token over the whole text, it is read as the
string, and nothing is left to be read behind it. -/
theorem parse_string_chars (limit : Nat) (s : String) :
    (Lexer.ofChars (Value.string s).chars).tokens =
        [⟨.literal .string, Position.start, (Value.string s).chars⟩] ∧
      exists after, parse limit (TokenBuffer.ofChars (Value.string s).chars) =
          (.ok (.expression (.literal (.string s))), after) ∧
        (parse limit after).1 = .ok .endOfInput := by
  have htokens : (Lexer.ofChars (Value.string s).chars).tokens =
      [⟨.literal .string, Position.start, (Value.string s).chars⟩] :=
    Lexer.tokens_quote s.toList
  have hwords : (Lexer.ofChars (Value.string s).chars).words =
      [⟨.literal .string, Position.start, (Value.string s).chars⟩] := by
    rw [Lexer.words, htokens]
    rfl
  have hread : LiteralForm.read .string (Value.string s).chars = .ok (.string s) := by
    simp only [LiteralForm.read, Value.chars, Text.unquote_quote, String.ofList_toList]
  have hdelivers := TokenBuffer.delivers_ofChars (Value.string s).chars
  rw [hwords] at hdelivers
  rcases delivers_parse (reads_literal rfl hread rfl limit) hdelivers with
    ⟨after, hparse, hafter⟩
  have hend : (scanWord after).1.kind = .endOfInput := by
    rw [hafter.scanWord_nil.left]
    rfl
  constructor
  · exact htokens
  · refine ⟨after, hparse, ?_⟩
    rw [parse_of_endOfInput hend]

end Parser

/-!
## Strings with escapes
-/

namespace Text

/-- A string that a text holds is read exactly if every escape in it is well-formed: a
backslash and one of six letters, or a backslash, a `u` and the code point of a character
in braces, a hexadecimal number. It is then read as its characters and escapes from left to
right. All else is refused for the first escape that is not well-formed. A plus sign in
front of the number makes no difference. -/
theorem unquote_of_mem_tokens (cs : List Char) :
    forall t, t ∈ (Lexer.ofChars cs).tokens -> t.kind = .literal .string ->
      exists body, t.lexeme = '"' :: (body ++ ['"']) ∧
        (forall out, unquote t.lexeme = .ok out <-> Decodes SignedHexadecimal body out) ∧
        forall fault,
          unquote t.lexeme = .error fault <-> BreaksOff SignedHexadecimal body fault := by
  intro t ht hkind
  have hquoted := (Lexer.shaped_of_mem_tokens _ t ht).string hkind
  generalize t.lexeme = lexeme at hquoted
  cases hquoted with
  | @intro body hbody =>
      refine ⟨body, rfl, ?_, ?_⟩
      · intro out
        rw [unquote_quoted]
        exact decode_eq_ok_iff
      · intro fault
        rw [unquote_quoted]
        exact hbody.decode_eq_error_iff

/-- One string with a tab and a character beyond the first plane, and one whose second
escape is none. -/
theorem unquote_of_mem_tokens_of_two :
    let cs := "\"\\t\\u\x7b1F600\x7d\" \"\\n\\q\\u\"".toList
    let good : Token := ⟨.literal .string, ⟨0, 0, 0⟩, "\"\\t\\u\x7b1F600\x7d\"".toList⟩
    let bad : Token := ⟨.literal .string, ⟨0, 14, 14⟩, "\"\\n\\q\\u\"".toList⟩
    (good ∈ (Lexer.ofChars cs).tokens ∧ good.kind = .literal .string ∧
        unquote good.lexeme = .ok ['\t', '😀'] ∧
        Decodes SignedHexadecimal "\\t\\u\x7b1F600\x7d".toList ['\t', '😀']) ∧
      (bad ∈ (Lexer.ofChars cs).tokens ∧ bad.kind = .literal .string ∧
        unquote bad.lexeme = .error (.unknownEscape 'q') ∧
        BreaksOff SignedHexadecimal "\\n\\q\\u".toList (.unknownEscape 'q')) := by
  intro cs good bad
  have hgood : good ∈ (Lexer.ofChars cs).tokens := by
    decide +kernel
  have hbad : bad ∈ (Lexer.ofChars cs).tokens := by
    decide +kernel
  have hread : unquote good.lexeme = .ok ['\t', '😀'] := by
    decide +kernel
  have hrefused : unquote bad.lexeme = .error (.unknownEscape 'q') := by
    decide +kernel
  constructor
  · rcases unquote_of_mem_tokens cs good hgood rfl with ⟨body, hlexeme, hok, -⟩
    have hbody : body = "\\t\\u\x7b1F600\x7d".toList :=
      List.append_cancel_right (List.cons.inj hlexeme).right.symm
    refine ⟨hgood, rfl, hread, ?_⟩
    rw [← hbody]
    exact (hok _).mp hread
  · rcases unquote_of_mem_tokens cs bad hbad rfl with ⟨body, hlexeme, -, herror⟩
    have hbody : body = "\\n\\q\\u".toList :=
      List.append_cancel_right (List.cons.inj hlexeme).right.symm
    refine ⟨hbad, rfl, hrefused, ?_⟩
    rw [← hbody]
    exact (herror _).mp hrefused

/-!
With a plus sign in front of it, a code point is read although the braces hold more than
hexadecimal digits.
-/

theorem unquote_plus :
    let text := "\"\\u\x7b+41\x7d\"".toList
    (Lexer.ofChars text).tokens = [⟨.literal .string, Position.start, text⟩] ∧
      unquote text = .ok ['A'] ∧
      forall out, ¬ Decodes Hexadecimal "\\u\x7b+41\x7d".toList out := by
  intro text
  refine ⟨by decide +kernel, by decide +kernel, ?_⟩
  intro out
  exact not_decodes_plus "41\x7d".toList out

end Text
end Reckon
