import Mathlib.Data.List.Forall2
import Mathlib.Data.List.TakeWhile
import Mathlib.Data.Nat.Digits.Defs
import Reckon.Proofs.Text.Unquoting

/-!
# The grammar of escapes

Between quotes stand plain characters and escapes: a backslash and a letter, or a
backslash, a `u` and the code point of a character in braces. A reader takes them from
left to right and stops at the first backslash that no escape begins with. How a code
point is spelled is left open by the grammar: it is a row of hexadecimal digits, but the
reader also takes a plus sign in front of them.
-/

namespace Reckon
namespace Text

/-!
## Hexadecimal numbers
-/

/-- A hexadecimal digit of a value, its letter in either case. -/
def DigitOf (c : Char) (d : Nat) : Prop :=
  d < 16 ∧ (c = d.digitChar ∨ c = d.digitChar.toUpper)

instance (c : Char) (d : Nat) : Decidable (DigitOf c d) :=
  inferInstanceAs (Decidable (_ ∧ _))

/-- One or more hexadecimal digits, and the number that they denote. -/
def Hexadecimal (cs : List Char) (n : Nat) : Prop :=
  cs ≠ [] ∧ exists digits, List.Forall₂ DigitOf cs digits ∧ Nat.ofDigits 16 digits.reverse = n

/-- A hexadecimal number that may have a plus sign. -/
def SignedHexadecimal (cs : List Char) (n : Nat) : Prop :=
  Hexadecimal cs n ∨ exists hex, cs = '+' :: hex ∧ Hexadecimal hex n

theorem lt_of_hexValue? {c : Char} {d : Nat} (h : hexValue? c = some d) : c.toNat < 128 := by
  have hnine : '9'.toNat = 57 := rfl
  unfold hexValue? at h
  split at h
  · next hdigit =>
      have hbound := (Char.isDigit_iff_toNat.mp hdigit).right
      omega
  · split at h
    · next hlower =>
        have hbound : c.toNat ≤ 102 := hlower.right
        omega
    · split at h
      · next hupper =>
          have hbound : c.toNat ≤ 70 := hupper.right
          omega
      · cases h

theorem hexValue?_eq_some_iff {c : Char} {d : Nat} : hexValue? c = some d <-> DigitOf c d := by
  constructor
  · intro h
    have hall : forall n, n < 128 ->
        (hexValue? (Char.ofNat n)).all (fun d => decide (DigitOf (Char.ofNat n) d)) = true := by
      decide
    have hdigit := hall c.toNat (lt_of_hexValue? h)
    rw [Char.ofNat_toNat, h] at hdigit
    exact of_decide_eq_true hdigit
  · rintro ⟨hd, hc⟩
    have hall : forall d, d < 16 ->
        hexValue? d.digitChar = some d ∧ hexValue? d.digitChar.toUpper = some d := by
      decide
    rcases hc with rfl | rfl
    · exact (hall d hd).left
    · exact (hall d hd).right

theorem hexDigits?_eq_some_iff {cs : List Char} {n m : Nat} :
    hexDigits? n cs = some m <->
      exists digits, List.Forall₂ DigitOf cs digits ∧
        digits.foldl (fun n d => 16 * n + d) n = m := by
  induction cs generalizing n with
  | nil =>
      constructor
      · intro h
        cases h
        exact ⟨[], .nil, rfl⟩
      · rintro ⟨digits, hdigits, rfl⟩
        cases hdigits
        rfl
  | cons c cs ih =>
      rw [hexDigits?]
      constructor
      · intro h
        cases hvalue : hexValue? c with
        | none =>
            rw [hvalue] at h
            cases h
        | some d =>
            rw [hvalue] at h
            rcases ih.mp h with ⟨digits, hdigits, hm⟩
            exact ⟨d :: digits, .cons (hexValue?_eq_some_iff.mp hvalue) hdigits, hm⟩
      · rintro ⟨digits, hdigits, hm⟩
        cases hdigits with
        | cons hd hdigits =>
            rw [hexValue?_eq_some_iff.mpr hd]
            exact ih.mpr ⟨_, hdigits, hm⟩

theorem ofDigits_reverse (digits : List Nat) :
    Nat.ofDigits 16 digits.reverse = digits.foldl (fun n d => 16 * n + d) 0 := by
  rw [Nat.ofDigits_eq_foldr, List.foldr_reverse]
  congr 1
  funext n d
  exact Nat.add_comm d (16 * n)

theorem hexadecimal_iff {cs : List Char} {n : Nat} :
    Hexadecimal cs n <-> cs ≠ [] ∧ hexDigits? 0 cs = some n := by
  unfold Hexadecimal
  rw [hexDigits?_eq_some_iff]
  simp only [ofDigits_reverse]

theorem Hexadecimal.exists_digitOf {cs : List Char} {n : Nat} (h : Hexadecimal cs n) {c : Char}
    (hc : c ∈ cs) : exists d, DigitOf c d := by
  rcases h with ⟨-, digits, hdigits, -⟩
  induction hdigits with
  | nil => cases hc
  | cons hd _ ih =>
      rcases List.mem_cons.mp hc with rfl | hc
      · exact ⟨_, hd⟩
      · exact ih hc

theorem not_digitOf_plus (d : Nat) : ¬ DigitOf '+' d := by
  rw [← hexValue?_eq_some_iff]
  intro h
  cases h

theorem not_digitOf_brace (d : Nat) : ¬ DigitOf '\x7d' d := by
  rw [← hexValue?_eq_some_iff]
  intro h
  cases h

theorem hexNumber?_of_ne_plus {cs : List Char} (hne : cs ≠ [])
    (hplus : forall hex, cs ≠ '+' :: hex) : hexNumber? cs = hexDigits? 0 cs := by
  unfold hexNumber?
  split
  · exact absurd rfl hne
  · exact absurd rfl (hplus [])
  · next hex _ => exact absurd rfl (hplus hex)
  · rfl

theorem hexNumber?_plus {hex : List Char} (hne : hex ≠ []) :
    hexNumber? ('+' :: hex) = hexDigits? 0 hex := by
  rcases List.exists_cons_of_ne_nil hne with ⟨c, cs, rfl⟩
  rfl

theorem hexNumber?_eq_some_iff {cs : List Char} {n : Nat} :
    hexNumber? cs = some n <-> SignedHexadecimal cs n := by
  constructor
  · intro h
    unfold hexNumber? at h
    split at h
    · cases h
    · cases h
    · next hex hne => exact Or.inr ⟨hex, rfl, hexadecimal_iff.mpr ⟨hne, h⟩⟩
    · next hne _ _ => exact Or.inl (hexadecimal_iff.mpr ⟨hne, h⟩)
  · rintro (h | ⟨hex, rfl, h⟩)
    · have hplus : forall hex, cs ≠ '+' :: hex := by
        rintro hex rfl
        rcases h.exists_digitOf List.mem_cons_self with ⟨d, hd⟩
        exact not_digitOf_plus d hd
      rw [hexNumber?_of_ne_plus h.left hplus]
      exact (hexadecimal_iff.mp h).right
    · rw [hexNumber?_plus h.left]
      exact (hexadecimal_iff.mp h).right

theorem SignedHexadecimal.brace_not_mem {cs : List Char} {n : Nat}
    (h : SignedHexadecimal cs n) : '\x7d' ∉ cs := by
  have hdigits {hex : List Char} (hhex : Hexadecimal hex n) : '\x7d' ∉ hex := by
    intro hmem
    rcases hhex.exists_digitOf hmem with ⟨d, hd⟩
    exact not_digitOf_brace d hd
  rcases h with h | ⟨hex, rfl, h⟩
  · exact hdigits h
  · intro hmem
    rcases List.mem_cons.mp hmem with heq | hmem
    · exact absurd heq (by decide)
    · exact hdigits h hmem

/-!
## Escapes
-/

/-- The letters that make an escape behind a backslash, and what they stand for. -/
def letterEscapes : List (Char × Char) :=
  [('n', '\n'), ('r', '\r'), ('t', '\t'), ('0', '\x00'), ('\\', '\\'), ('"', '"')]

section Grammar

variable (IsCode : List Char -> Nat -> Prop)

/-- What stands behind the backslash of an escape, and the character that it is an escape
of. The code point in braces is spelled as `IsCode` says. -/
inductive Escape : List Char -> Char -> Prop where
  | letter {c d : Char} : (c, d) ∈ letterEscapes -> Escape [c] d
  | codePoint {code : List Char} {c : Char} :
      IsCode code c.toNat -> Escape ('u' :: '\x7b' :: (code ++ ['\x7d'])) c

/-- What stands between quotes, and the characters that it stands for. -/
inductive Decodes : List Char -> List Char -> Prop where
  | nil : Decodes [] []
  | plain {c : Char} {body out : List Char} :
      c ≠ '\\' -> Decodes body out -> Decodes (c :: body) (c :: out)
  | escape {escape body out : List Char} {c : Char} :
      Escape IsCode escape c -> Decodes body out ->
      Decodes ('\\' :: (escape ++ body)) (c :: out)

/-- A text that does not begin as behind the backslash of an escape, and what is wrong
with it. -/
inductive NoEscape : List Char -> QuotedFault -> Prop where
  | letter {c : Char} {rest : List Char} :
      c ≠ 'u' -> (forall d, (c, d) ∉ letterEscapes) -> NoEscape (c :: rest) (.unknownEscape c)
  | braces {rest : List Char} :
      (forall code after, rest ≠ '\x7b' :: (code ++ '\x7d' :: after)) ->
      NoEscape ('u' :: rest) .missingBraces
  | code {code after : List Char} :
      '\x7d' ∉ code -> (forall c : Char, ¬ IsCode code c.toNat) ->
      NoEscape ('u' :: '\x7b' :: (code ++ '\x7d' :: after)) (.invalidCodePoint code)

/-- What stands between quotes goes wrong at a backslash, all in front of it being
well-formed. -/
inductive BreaksOff : List Char -> QuotedFault -> Prop where
  | intro {body out rest : List Char} {fault : QuotedFault} :
      Decodes IsCode body out -> NoEscape IsCode rest fault ->
      BreaksOff (body ++ '\\' :: rest) fault

end Grammar

theorem simpleEscape?_eq_some_iff {c d : Char} :
    simpleEscape? c = some d <-> (c, d) ∈ letterEscapes := by
  constructor
  · intro h
    unfold simpleEscape? at h
    split at h
    case h_7 => cases h
    all_goals
      cases h
      decide
  · intro h
    have hall : forall entry, entry ∈ letterEscapes ->
        simpleEscape? entry.1 = some entry.2 := by
      decide
    exact hall _ h

theorem charOfCode?_eq_some_iff {n : Nat} {c : Char} : charOfCode? n = some c <-> c.toNat = n := by
  constructor
  · intro h
    by_cases hvalid : n.isValidChar
    · rw [charOfCode?, dif_pos hvalid] at h
      cases h
      rfl
    · rw [charOfCode?, dif_neg hvalid] at h
      cases h
  · rintro rfl
    exact charOfCode?_toNat c

theorem codeChar?_eq_some_iff {code : List Char} {c : Char} :
    (hexNumber? code).bind charOfCode? = some c <-> SignedHexadecimal code c.toNat := by
  rw [Option.bind_eq_some_iff]
  constructor
  · rintro ⟨n, hnumber, hchar⟩
    rw [charOfCode?_eq_some_iff.mp hchar]
    exact hexNumber?_eq_some_iff.mp hnumber
  · intro h
    exact ⟨c.toNat, hexNumber?_eq_some_iff.mpr h, charOfCode?_toNat c⟩

theorem not_decodes_plus (rest out : List Char) :
    ¬ Decodes Hexadecimal ('\\' :: 'u' :: '\x7b' :: '+' :: rest) out := by
  intro h
  generalize htext : '\\' :: 'u' :: '\x7b' :: '+' :: rest = text at h
  cases h with
  | nil => cases htext
  | plain hc _ => exact hc (List.cons.inj htext).left.symm
  | escape hescape _ =>
      have hbehind := (List.cons.inj htext).right
      cases hescape with
      | letter hletter =>
          rw [← (List.cons.inj hbehind).left, ← simpleEscape?_eq_some_iff] at hletter
          cases hletter
      | @codePoint code _ hcode =>
          rcases List.exists_cons_of_ne_nil hcode.left with ⟨digit, digits, rfl⟩
          rcases hcode.exists_digitOf List.mem_cons_self with ⟨d, hd⟩
          have hinside := (List.cons.inj (List.cons.inj hbehind).right).right
          rw [← (List.cons.inj hinside).left] at hd
          exact not_digitOf_plus d hd

/-!
## Reading an escape
-/

theorem splitCodePoint_of_braces {code : List Char} (hcode : '\x7d' ∉ code)
    (after : List Char) :
    splitCodePoint ('\x7b' :: (code ++ '\x7d' :: after)) =
      match (hexNumber? code).bind charOfCode? with
      | some c => .ok (c, after)
      | none => .error (.invalidCodePoint code) := by
  have hinside : forall c, c ∈ code -> (c != '\x7d') = true := by
    intro c hc
    rw [bne_iff_ne]
    rintro rfl
    exact hcode hc
  have hstops : StopsRun (· != '\x7d') ('\x7d' :: after) := stopsRun_cons rfl
  have htake := takeWhile_append hinside hstops
  have hdrop := dropWhile_append hinside hstops
  rw [splitCodePoint]
  generalize (code ++ '\x7d' :: after).takeWhile (· != '\x7d') = taken at htake ⊢
  generalize (code ++ '\x7d' :: after).dropWhile (· != '\x7d') = dropped at hdrop ⊢
  subst htake hdrop
  rfl

theorem splitCodePoint_of_missing {cs : List Char}
    (h : forall code after, cs ≠ '\x7b' :: (code ++ '\x7d' :: after)) :
    splitCodePoint cs = .error .missingBraces := by
  unfold splitCodePoint
  split
  · next rest =>
      have hnone : rest.dropWhile (· != '\x7d') = [] := by
        rw [List.dropWhile_eq_nil_iff]
        intro c hc
        rw [bne_iff_ne]
        rintro rfl
        rcases List.append_of_mem hc with ⟨code, after, rfl⟩
        exact h code after rfl
      rw [hnone]
  · rfl

theorem braces_or_missing (cs : List Char) :
    (exists code after, '\x7d' ∉ code ∧ cs = '\x7b' :: (code ++ '\x7d' :: after)) ∨
      forall code after, cs ≠ '\x7b' :: (code ++ '\x7d' :: after) := by
  by_cases h : exists code after, cs = '\x7b' :: (code ++ '\x7d' :: after)
  · left
    rcases h with ⟨code, after, rfl⟩
    have hmem : '\x7d' ∈ code ++ '\x7d' :: after :=
      List.mem_append_right code List.mem_cons_self
    rcases List.eq_append_cons_of_mem hmem with ⟨first, rest, hsplit, hfirst⟩
    exact ⟨first, rest, hfirst, congrArg _ hsplit⟩
  · right
    intro code after hcs
    exact h ⟨code, after, hcs⟩

theorem splitEscape_eq_ok_iff {cs rest : List Char} {c : Char} :
    splitEscape cs = .ok (c, rest) <->
      exists escape, Escape SignedHexadecimal escape c ∧ cs = escape ++ rest := by
  constructor
  · intro h
    unfold splitEscape at h
    split at h
    · cases h
    · next letter behind =>
        split at h
        · next hletter =>
            cases h
            exact ⟨[letter], .letter (simpleEscape?_eq_some_iff.mp hletter), rfl⟩
        · split at h
          · next hu =>
              rcases braces_or_missing behind with ⟨code, after, hcode, rfl⟩ | hmissing
              · rw [splitCodePoint_of_braces hcode] at h
                split at h
                · next hchar =>
                    cases h
                    refine ⟨_, .codePoint (codeChar?_eq_some_iff.mp hchar), ?_⟩
                    simp [hu]
                · cases h
              · rw [splitCodePoint_of_missing hmissing] at h
                cases h
          · cases h
  · rintro ⟨escape, hescape, rfl⟩
    cases hescape with
    | letter hletter =>
        rw [List.singleton_append, splitEscape, simpleEscape?_eq_some_iff.mpr hletter]
    | @codePoint code _ hcode =>
        have hu : simpleEscape? 'u' = none := rfl
        have htext : 'u' :: '\x7b' :: (code ++ ['\x7d']) ++ rest =
            'u' :: '\x7b' :: (code ++ '\x7d' :: rest) := by
          simp
        rw [htext, splitEscape, hu]
        dsimp only
        rw [if_pos rfl, splitCodePoint_of_braces hcode.brace_not_mem,
          codeChar?_eq_some_iff.mpr hcode]

theorem noEscape_of_splitEscape {c : Char} {rest : List Char} {fault : QuotedFault}
    (h : splitEscape (c :: rest) = .error fault) :
    NoEscape SignedHexadecimal (c :: rest) fault := by
  rw [splitEscape] at h
  split at h
  · cases h
  · next hnone =>
      have hletters : forall d, (c, d) ∉ letterEscapes := by
        intro d hd
        rw [simpleEscape?_eq_some_iff.mpr hd] at hnone
        cases hnone
      split at h
      · next hu =>
          subst hu
          rcases braces_or_missing rest with ⟨code, after, hcode, rfl⟩ | hmissing
          · rw [splitCodePoint_of_braces hcode] at h
            split at h
            · cases h
            · next hchar =>
                cases h
                refine .code hcode ?_
                intro d hd
                rw [codeChar?_eq_some_iff.mpr hd] at hchar
                cases hchar
          · rw [splitCodePoint_of_missing hmissing] at h
            cases h
            exact .braces hmissing
      · next hu =>
          cases h
          exact .letter hu hletters

theorem NoEscape.splitEscape_eq {cs : List Char} {fault : QuotedFault}
    (h : NoEscape SignedHexadecimal cs fault) : splitEscape cs = .error fault := by
  have hu : simpleEscape? 'u' = none := rfl
  cases h with
  | @letter c rest hne hletters =>
      have hnone : simpleEscape? c = none := by
        rw [Option.eq_none_iff_forall_ne_some]
        intro d hd
        exact hletters d (simpleEscape?_eq_some_iff.mp hd)
      rw [splitEscape, hnone]
      exact if_neg hne
  | braces hmissing =>
      rw [splitEscape, hu]
      exact splitCodePoint_of_missing hmissing
  | @code code _ hcode hnone =>
      have hchar : (hexNumber? code).bind charOfCode? = none := by
        rw [Option.eq_none_iff_forall_ne_some]
        intro d hd
        exact hnone d (codeChar?_eq_some_iff.mp hd)
      rw [splitEscape, hu]
      dsimp only
      rw [if_pos rfl, splitCodePoint_of_braces hcode, hchar]

/-!
## Reading from left to right
-/

theorem decode_of_splitEscape_error {cs : List Char} {fault : QuotedFault}
    (h : splitEscape cs = .error fault) : decode ('\\' :: cs) = .error fault := by
  rw [decode, if_pos rfl]
  split
  · next hsplit =>
      rw [h] at hsplit
      cases hsplit
  · next hsplit =>
      rw [h] at hsplit
      cases hsplit
      rfl

theorem Decodes.decode_append {body out : List Char} (h : Decodes SignedHexadecimal body out)
    (rest : List Char) : decode (body ++ rest) = (decode rest).map (out ++ ·) := by
  induction h with
  | nil =>
      cases hrest : decode rest with
      | error fault =>
          rw [List.nil_append, hrest]
          rfl
      | ok out =>
          rw [List.nil_append, hrest]
          rfl
  | plain hc _ ih =>
      rw [List.cons_append, decode_plain hc, ih]
      cases decode rest <;> rfl
  | escape hescape _ ih =>
      rw [List.cons_append, List.append_assoc,
        decode_escape (splitEscape_eq_ok_iff.mpr ⟨_, hescape, rfl⟩), ih]
      cases decode rest <;> rfl

theorem exists_ok_of_map_eq_ok {ε α β : Type} {f : α -> β} {x : Except ε α} {b : β}
    (h : x.map f = .ok b) : exists a, x = .ok a ∧ f a = b := by
  cases x with
  | error e => cases h
  | ok a =>
      cases h
      exact ⟨a, rfl, rfl⟩

/-- A text between quotes is read exactly if it is well-formed, and as what it stands
for. -/
theorem decode_eq_ok_iff {body out : List Char} :
    decode body = .ok out <-> Decodes SignedHexadecimal body out := by
  constructor
  · intro h
    fun_induction decode body generalizing out with
    | case1 =>
        cases h
        exact .nil
    | case2 rest d after hsplit _ ih =>
        rcases exists_ok_of_map_eq_ok h with ⟨tail, htail, rfl⟩
        rcases splitEscape_eq_ok_iff.mp hsplit with ⟨escape, hescape, rfl⟩
        exact .escape hescape (ih htail)
    | case3 rest fault hsplit => cases h
    | case4 c rest hc ih =>
        rcases exists_ok_of_map_eq_ok h with ⟨tail, htail, rfl⟩
        exact .plain hc (ih htail)
  · intro h
    have hread := h.decode_append []
    rw [List.append_nil, decode] at hread
    rw [hread]
    exact congrArg Except.ok (List.append_nil out)

/-- A text whose backslashes all have a character behind them goes wrong exactly at the
first one that no escape begins with. -/
theorem StringBody.decode_eq_error_iff {body : List Char} {fault : QuotedFault}
    (hbody : StringBody body) :
    decode body = .error fault <-> BreaksOff SignedHexadecimal body fault := by
  constructor
  · intro h
    fun_induction decode body with
    | case1 => cases h
    | case2 rest d after hsplit _ ih =>
        rcases hbody.exists_cons with ⟨c, inner, rfl, hinner⟩
        rcases ih (hinner.of_splitEscape hsplit) (eq_error_of_map_eq_error h) with
          ⟨hgood, hbad⟩
        rcases splitEscape_eq_ok_iff.mp hsplit with ⟨escape, hescape, htext⟩
        rw [htext, ← List.append_assoc]
        exact .intro (.escape hescape hgood) hbad
    | case3 rest fault hsplit =>
        cases h
        rcases hbody.exists_cons with ⟨c, inner, rfl, -⟩
        exact .intro .nil (noEscape_of_splitEscape hsplit)
    | case4 c rest hc ih =>
        rcases ih (hbody.of_cons hc) (eq_error_of_map_eq_error h) with ⟨hgood, hbad⟩
        exact .intro (.plain hc hgood) hbad
  · rintro ⟨hgood, hbad⟩
    rw [hgood.decode_append, decode_of_splitEscape_error hbad.splitEscape_eq]
    rfl

end Text
end Reckon
