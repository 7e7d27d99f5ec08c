import Reckon.Text.Quoted
import Reckon.Token.Scan

/-!
# Quoted strings read back

A character between quotes is written as itself, as a backslash and a letter, or
by its code point. In each of these forms it is read back as itself, and is
passed over as a whole when the closing quote is looked for.
-/

namespace Reckon
namespace Text

/-- A character that neither ends a string nor starts an escape. -/
def IsPlain (c : Char) : Prop :=
  c ≠ '"' ∧ c ≠ '\\' ∧ c ≠ '\n'

/-!
## Hexadecimal numbers
-/

/-- A hexadecimal digit as it is written, and its value. -/
structure IsHexDigit (c : Char) (d : Nat) : Prop where
  value_eq : hexValue? c = some d
  isPlain : IsPlain c
  ne_plus : c ≠ '+'
  ne_brace : c ≠ '\x7d'

theorem isHexDigit_digitChar {d : Nat} (h : d < 16) : IsHexDigit d.digitChar d := by
  have hall : forall d, d < 16 -> hexValue? d.digitChar = some d ∧
      (d.digitChar ≠ '"' ∧ d.digitChar ≠ '\\' ∧ d.digitChar ≠ '\n') ∧
      d.digitChar ≠ '+' ∧ d.digitChar ≠ '\x7d' := by
    decide
  rcases hall d h with ⟨hvalue, hplain, hplus, hbrace⟩
  exact ⟨hvalue, hplain, hplus, hbrace⟩

theorem toDigits_induction {motive : Nat -> List Char -> Prop}
    (digit : forall d, d < 16 -> motive d [d.digitChar])
    (more : forall n d, d < 16 -> motive n (Nat.toDigits 16 n) ->
      motive (16 * n + d) (Nat.toDigits 16 n ++ [d.digitChar])) (n : Nat) :
    motive n (Nat.toDigits 16 n) := by
  induction n using Nat.strongRecOn with
  | ind n ih =>
      by_cases hn : n < 16
      · rw [Nat.toDigits_of_lt_base hn]
        exact digit n hn
      · have hle := Nat.le_of_not_lt hn
        have hlt : n / 16 < n := Nat.div_lt_self (Nat.lt_of_lt_of_le (by decide) hle) (by decide)
        have hmore := more (n / 16) (n % 16) (Nat.mod_lt n (by decide)) (ih _ hlt)
        rw [Nat.div_add_mod] at hmore
        rw [Nat.toDigits_of_base_le (by decide) hle]
        exact hmore

theorem isHexDigit_of_mem_toDigits (n : Nat) :
    forall c, c ∈ Nat.toDigits 16 n -> exists d, IsHexDigit c d := by
  refine toDigits_induction (motive := fun _ cs => forall c, c ∈ cs -> exists d, IsHexDigit c d)
    ?_ ?_ n
  · intro d hd c hc
    rw [List.mem_singleton] at hc
    rw [hc]
    exact ⟨d, isHexDigit_digitChar hd⟩
  · intro n d hd ih c hc
    rw [List.mem_append, List.mem_singleton] at hc
    rcases hc with hc | hc
    · exact ih c hc
    · rw [hc]
      exact ⟨d, isHexDigit_digitChar hd⟩

theorem hexDigits?_append (n : Nat) (as bs : List Char) :
    hexDigits? n (as ++ bs) = (hexDigits? n as).bind fun m => hexDigits? m bs := by
  induction as generalizing n with
  | nil => rfl
  | cons c as ih =>
      rw [List.cons_append, hexDigits?, hexDigits?]
      cases hexValue? c with
      | none => rfl
      | some d => exact ih _

theorem hexDigits?_toDigits (n : Nat) : hexDigits? 0 (Nat.toDigits 16 n) = some n := by
  refine toDigits_induction (motive := fun n cs => hexDigits? 0 cs = some n) ?_ ?_ n
  · intro d hd
    rw [hexDigits?, (isHexDigit_digitChar hd).value_eq]
    show some (16 * 0 + d) = some d
    rw [Nat.mul_zero, Nat.zero_add]
  · intro n d hd ih
    rw [hexDigits?_append, ih, Option.bind_some, hexDigits?,
      (isHexDigit_digitChar hd).value_eq]
    rfl

theorem hexNumber?_toDigits (n : Nat) : hexNumber? (Nat.toDigits 16 n) = some n := by
  have hnumber := hexDigits?_toDigits n
  have hdigits := isHexDigit_of_mem_toDigits n
  cases hcs : Nat.toDigits 16 n with
  | nil => exact absurd hcs Nat.toDigits_ne_nil
  | cons c cs =>
      rw [hcs] at hnumber hdigits
      rcases hdigits c List.mem_cons_self with ⟨d, hd⟩
      unfold hexNumber?
      split
      · next hnil => cases hnil
      · next hplus =>
          cases hplus
          exact absurd rfl hd.ne_plus
      · next hplus =>
          cases hplus
          exact absurd rfl hd.ne_plus
      · exact hnumber

theorem charOfCode?_toNat (c : Char) : charOfCode? c.toNat = some c := by
  have hvalid : c.toNat.isValidChar := c.valid
  rw [charOfCode?, dif_pos hvalid]
  rfl

/-!
## Forms of a character
-/

/-- How a character can be written between quotes. -/
inductive Written : Char -> List Char -> Prop where
  | plain {c : Char} : IsPlain c -> Written c [c]
  | escape {c d : Char} : simpleEscape? d = some c -> Written c ['\\', d]
  | code {c : Char} : Written c (codePointEscape c)

theorem written_encodeChar (c : Char) : Written c (encodeChar c) := by
  unfold encodeChar
  split
  · next h =>
      rw [h]
      exact .escape rfl
  · next hquote =>
      split
      · next h =>
          rw [h]
          exact .escape rfl
      · next hslash =>
          split
          · next h =>
              rw [h]
              exact .escape rfl
          · next hline =>
              split
              · next h =>
                  rw [h]
                  exact .escape rfl
              · split
                · next h =>
                    rw [h]
                    exact .escape rfl
                · split
                  · exact .code
                  · exact .plain ⟨hquote, hslash, hline⟩

/-!
## Reading the forms
-/

theorem splitCodePoint_toDigits (c : Char) (rest : List Char) :
    splitCodePoint ('\x7b' :: Nat.toDigits 16 c.toNat ++ '\x7d' :: rest) =
      .ok (c, rest) := by
  have hdigits : forall d, d ∈ Nat.toDigits 16 c.toNat -> (d != '\x7d') = true := by
    intro d hd
    rcases isHexDigit_of_mem_toDigits _ d hd with ⟨value, hvalue⟩
    exact bne_iff_ne.mpr hvalue.ne_brace
  have hcode : (Nat.toDigits 16 c.toNat ++ '\x7d' :: rest).takeWhile (· != '\x7d') =
      Nat.toDigits 16 c.toNat := by
    have hstop : ('\x7d' :: rest).takeWhile (· != '\x7d') = [] := rfl
    rw [List.takeWhile_append_of_pos hdigits, hstop, List.append_nil]
  have hafter : (Nat.toDigits 16 c.toNat ++ '\x7d' :: rest).dropWhile (· != '\x7d') =
      '\x7d' :: rest := by
    have hstop : ('\x7d' :: rest).dropWhile (· != '\x7d') = '\x7d' :: rest := rfl
    rw [List.dropWhile_append_of_pos hdigits, hstop]
  rw [List.cons_append, splitCodePoint]
  simp only [hcode, hafter, hexNumber?_toDigits, Option.bind_some, charOfCode?_toNat]

theorem decode_plain {c : Char} (h : c ≠ '\\') (rest : List Char) :
    decode (c :: rest) = (decode rest).map (c :: ·) := by
  rw [decode, if_neg h]

theorem decode_escape {cs rest : List Char} {c : Char} (h : splitEscape cs = .ok (c, rest)) :
    decode ('\\' :: cs) = (decode rest).map (c :: ·) := by
  rw [decode, if_pos rfl]
  split
  · next hsplit =>
      rw [h] at hsplit
      cases hsplit
      rfl
  · next hsplit =>
      rw [h] at hsplit
      cases hsplit

theorem Written.decode {c : Char} {cs : List Char} (h : Written c cs) (rest : List Char) :
    Text.decode (cs ++ rest) = (Text.decode rest).map (c :: ·) := by
  cases h with
  | plain hplain => exact decode_plain hplain.right.left rest
  | @escape d hletter =>
      apply decode_escape
      show splitEscape (d :: rest) = .ok (c, rest)
      rw [splitEscape, hletter]
  | code =>
      have htext : codePointEscape c ++ rest =
          '\\' :: 'u' :: ('\x7b' :: Nat.toDigits 16 c.toNat ++ '\x7d' :: rest) := by
        simp [codePointEscape]
      rw [htext]
      apply decode_escape
      exact splitCodePoint_toDigits c rest

theorem decode_flatMap_encodeChar (cs : List Char) :
    decode (cs.flatMap encodeChar) = .ok cs := by
  induction cs with
  | nil => rw [List.flatMap_nil, decode]
  | cons c cs ih =>
      rw [List.flatMap_cons, (written_encodeChar c).decode, ih]
      rfl

/-- What is put between quotes is found between them. -/
theorem unquote_quote (cs : List Char) : unquote (quote cs) = .ok cs := by
  have htext : quote cs = '"' :: (cs.flatMap encodeChar ++ ['"']) := rfl
  rw [htext, unquote, List.getLast?_concat, if_pos rfl, List.dropLast_concat]
  exact decode_flatMap_encodeChar cs

end Text

namespace Scan

open Text (IsPlain Written encodeChar quote)

/-!
## Finding the closing quote
-/

variable {rest body after : List Char}

theorem splitString_plain {c : Char} (hc : IsPlain c)
    (h : splitString false rest = some (body, after)) :
    splitString false (c :: rest) = some (c :: body, after) := by
  rcases hc with ⟨hquote, hslash, hline⟩
  have hescaped : (!false && c == '\\') = false := by
    simpa using hslash
  rw [splitString, if_neg (by simpa using hquote), if_neg (by simpa using hline), hescaped, h]

theorem splitString_escaped (c : Char) (h : splitString false rest = some (body, after)) :
    splitString true (c :: rest) = some (c :: body, after) := by
  simp [splitString, h]

theorem splitString_escape (c : Char) (h : splitString false rest = some (body, after)) :
    splitString false ('\\' :: c :: rest) = some ('\\' :: c :: body, after) := by
  have hescaped := splitString_escaped c h
  rw [splitString]
  simp [hescaped]

theorem splitString_forall_plain {cs : List Char} (hcs : forall c, c ∈ cs -> IsPlain c)
    (h : splitString false rest = some (body, after)) :
    splitString false (cs ++ rest) = some (cs ++ body, after) := by
  induction cs with
  | nil => exact h
  | cons c cs ih =>
      apply splitString_plain (hcs c List.mem_cons_self)
      exact ih fun d hd => hcs d (List.mem_cons_of_mem c hd)

theorem splitString_codePointEscape (c : Char)
    (h : splitString false rest = some (body, after)) :
    splitString false (Text.codePointEscape c ++ rest) =
      some (Text.codePointEscape c ++ body, after) := by
  have hplain : forall d, d ∈ '\x7b' :: Nat.toDigits 16 c.toNat ++ ['\x7d'] -> IsPlain d := by
    have hopen : IsPlain '\x7b' := by
      unfold IsPlain
      decide
    have hclose : IsPlain '\x7d' := by
      unfold IsPlain
      decide
    intro d hd
    rw [List.mem_append, List.mem_cons, List.mem_singleton] at hd
    rcases hd with (rfl | hd) | rfl
    · exact hopen
    · rcases Text.isHexDigit_of_mem_toDigits _ d hd with ⟨value, hvalue⟩
      exact hvalue.isPlain
    · exact hclose
  have htext : Text.codePointEscape c =
      '\\' :: 'u' :: ('\x7b' :: Nat.toDigits 16 c.toNat ++ ['\x7d']) := by
    simp [Text.codePointEscape]
  rw [htext]
  exact splitString_escape 'u' (splitString_forall_plain hplain h)

theorem splitString_written {c : Char} {cs : List Char} (hcs : Written c cs)
    (h : splitString false rest = some (body, after)) :
    splitString false (cs ++ rest) = some (cs ++ body, after) := by
  cases hcs with
  | plain hplain => exact splitString_plain hplain h
  | escape _ => exact splitString_escape _ h
  | code => exact splitString_codePointEscape c h

theorem splitString_flatMap_encodeChar (cs rest : List Char) :
    splitString false (cs.flatMap encodeChar ++ '"' :: rest) =
      some (cs.flatMap encodeChar ++ ['"'], rest) := by
  induction cs with
  | nil => rfl
  | cons c cs ih =>
      rw [List.flatMap_cons, List.append_assoc, List.append_assoc]
      exact splitString_written (Text.written_encodeChar c) ih

theorem quote_split {cs ds a b : List Char} (h : quote cs ++ a = quote ds ++ b) :
    quote cs = quote ds ∧ a = b := by
  have hbody : cs.flatMap encodeChar ++ '"' :: a = ds.flatMap encodeChar ++ '"' :: b := by
    simpa [quote] using h
  have hsplit := congrArg (splitString false) hbody
  rw [splitString_flatMap_encodeChar, splitString_flatMap_encodeChar] at hsplit
  rcases Prod.mk.inj (Option.some.inj hsplit) with ⟨hquote, hbehind⟩
  exact ⟨congrArg ('"' :: ·) hquote, hbehind⟩

theorem first_quote (cs rest : List Char) :
    first '"' (cs.flatMap encodeChar ++ '"' :: rest) =
      ⟨.literal .string, quote cs, rest⟩ := by
  have hfirst : first '"' (cs.flatMap encodeChar ++ '"' :: rest) =
      string '"' (cs.flatMap encodeChar ++ '"' :: rest) := rfl
  rw [hfirst, string, splitString_flatMap_encodeChar]
  rfl

end Scan
end Reckon
