import Reckon.Proofs.Text.Quoting

/-!
# What can be wrong between quotes

A scanner looks for the closing quote of a string and takes a backslash and the character
behind it for a pair, whatever they mean. Reading the escapes of the string goes by the
same pairs: where an escape is longer than two characters, the others are no backslashes.
So there is always a character behind a backslash, and all that can be wrong is what the
escape is.
-/

namespace Reckon
namespace Text

/-- What stands between the quotes of a string: plain characters, and backslashes with a
character behind each. -/
inductive StringBody : List Char -> Prop where
  | nil : StringBody []
  | plain {c : Char} {cs : List Char} : IsPlain c -> StringBody cs -> StringBody (c :: cs)
  | escape {c : Char} {cs : List Char} : StringBody cs -> StringBody ('\\' :: c :: cs)

/-- The faults of an escape: its letter, or the code point in its braces, or that there
are no braces. -/
def QuotedFault.InEscape : QuotedFault -> Prop
  | .unknownEscape _ => True
  | .invalidCodePoint _ => True
  | .missingBraces => True
  | .missingQuotes => False
  | .danglingBackslash => False

/-!
## Escapes by code point
-/

theorem ne_backslash_of_hexDigits? {n value : Nat} {cs : List Char}
    (h : hexDigits? n cs = some value) : forall c, c ∈ cs -> c ≠ '\\' := by
  induction cs generalizing n with
  | nil =>
      intro c hc
      cases hc
  | cons d cs ih =>
      rw [hexDigits?] at h
      cases hvalue : hexValue? d with
      | none =>
          rw [hvalue] at h
          cases h
      | some k =>
          rw [hvalue] at h
          intro c hc hslash
          rcases List.mem_cons.mp hc with rfl | hc
          · have hnone : hexValue? '\\' = none := by decide
            rw [hslash, hnone] at hvalue
            cases hvalue
          · exact ih h c hc hslash

theorem ne_backslash_of_hexNumber? {value : Nat} {cs : List Char}
    (h : hexNumber? cs = some value) : forall c, c ∈ cs -> c ≠ '\\' := by
  unfold hexNumber? at h
  split at h
  · cases h
  · cases h
  · intro c hc
    rcases List.mem_cons.mp hc with rfl | hc
    · decide
    · exact ne_backslash_of_hexDigits? h c hc
  · exact ne_backslash_of_hexDigits? h

theorem StringBody.of_cons {c : Char} {cs : List Char} (hc : c ≠ '\\')
    (h : StringBody (c :: cs)) : StringBody cs := by
  cases h with
  | plain _ hbody => exact hbody
  | escape _ => exact absurd rfl hc

theorem StringBody.of_append {cs rest : List Char} (hcs : forall c, c ∈ cs -> c ≠ '\\')
    (h : StringBody (cs ++ rest)) : StringBody rest := by
  -- Without a backslash in it, the start of a string leaves no escape open.
  induction cs with
  | nil => exact h
  | cons c cs ih =>
      exact ih (fun d hd => hcs d (List.mem_cons_of_mem _ hd))
        (h.of_cons (hcs c List.mem_cons_self))

theorem StringBody.of_splitCodePoint {cs after : List Char} {c : Char} (h : StringBody cs)
    (hsplit : splitCodePoint cs = .ok (c, after)) : StringBody after := by
  unfold splitCodePoint at hsplit
  split at hsplit
  · next rest =>
      dsimp only at hsplit
      split at hsplit
      · cases hsplit
      · next brace behind hdrop =>
          split at hsplit
          · next hcode =>
              cases hsplit
              rcases Option.bind_eq_some_iff.mp hcode with ⟨value, hvalue, -⟩
              have hbrace : brace = '\x7d' := by
                have hnot := List.head?_dropWhile_not (· != '\x7d') rest
                rw [hdrop] at hnot
                simpa using hnot
              have htext : '\x7b' :: rest =
                  ('\x7b' :: (rest.takeWhile (· != '\x7d') ++ [brace])) ++ after := by
                rw [List.cons_append, List.append_assoc, List.singleton_append, ← hdrop,
                  List.takeWhile_append_dropWhile]
              rw [htext] at h
              refine h.of_append fun d hd => ?_
              rcases List.mem_cons.mp hd with rfl | hd
              · decide
              · rcases List.mem_append.mp hd with hd | hd
                · exact ne_backslash_of_hexNumber? hvalue d hd
                · rw [List.mem_singleton.mp hd, hbrace]
                  decide
          · cases hsplit
  · cases hsplit

theorem inEscape_of_splitCodePoint {cs : List Char} {fault : QuotedFault}
    (h : splitCodePoint cs = .error fault) : fault.InEscape := by
  unfold splitCodePoint at h
  split at h
  · dsimp only at h
    split at h
    · cases h
      trivial
    · split at h
      · cases h
      · cases h
        trivial
  · cases h
    trivial

/-!
## Any escape
-/

theorem StringBody.of_splitEscape {c d : Char} {cs after : List Char} (h : StringBody cs)
    (hsplit : splitEscape (c :: cs) = .ok (d, after)) : StringBody after := by
  rw [splitEscape] at hsplit
  split at hsplit
  · cases hsplit
    exact h
  · split at hsplit
    · exact h.of_splitCodePoint hsplit
    · cases hsplit

theorem inEscape_of_splitEscape {c : Char} {cs : List Char} {fault : QuotedFault}
    (h : splitEscape (c :: cs) = .error fault) : fault.InEscape := by
  rw [splitEscape] at h
  split at h
  · cases h
  · split at h
    · exact inEscape_of_splitCodePoint h
    · cases h
      trivial

theorem StringBody.exists_cons {cs : List Char} (h : StringBody ('\\' :: cs)) :
    exists c rest, cs = c :: rest ∧ StringBody rest := by
  cases h with
  | plain hplain _ => exact absurd rfl hplain.right.left
  | escape hrest => exact ⟨_, _, rfl, hrest⟩

theorem eq_error_of_map_eq_error {ε α β : Type} {f : α -> β} {x : Except ε α} {e : ε}
    (h : x.map f = .error e) : x = .error e := by
  cases x with
  | error e' =>
      cases h
      rfl
  | ok a => cases h

theorem StringBody.inEscape_of_decode {cs : List Char} {fault : QuotedFault}
    (h : StringBody cs) (hdecode : decode cs = .error fault) : fault.InEscape := by
  fun_induction decode cs with
  | case1 => cases hdecode
  | case2 rest d after hsplit _ ih =>
      rcases h.exists_cons with ⟨c, inner, rfl, hinner⟩
      exact ih (hinner.of_splitEscape hsplit) (eq_error_of_map_eq_error hdecode)
  | case3 rest fault hsplit =>
      cases hdecode
      rcases h.exists_cons with ⟨c, inner, rfl, -⟩
      exact inEscape_of_splitEscape hsplit
  | case4 c rest hc ih => exact ih (h.of_cons hc) (eq_error_of_map_eq_error hdecode)

/-!
## Scanned strings
-/

theorem unquote_quoted (cs : List Char) : unquote ('"' :: (cs ++ ['"'])) = decode cs := by
  rw [unquote, List.getLast?_concat, if_pos rfl, List.dropLast_concat]

/-- A string and nothing else. -/
inductive Quoted : List Char -> Prop where
  | intro {body : List Char} : StringBody body -> Quoted ('"' :: (body ++ ['"']))

/-- A string goes wrong only within an escape. -/
theorem Quoted.inEscape_of_unquote {cs : List Char} {fault : QuotedFault} (h : Quoted cs)
    (hunquote : unquote cs = .error fault) : fault.InEscape := by
  cases h with
  | intro hbody =>
      rw [unquote_quoted] at hunquote
      exact hbody.inEscape_of_decode hunquote

end Text

namespace Scan

open Text (StringBody)

theorem exists_stringBody_of_escaped {escaped : Bool} {cs lexeme after : List Char}
    (h : splitString escaped cs = some (lexeme, after)) :
    exists body, lexeme = body ++ ['"'] ∧
      StringBody (if escaped then '\\' :: body else body) := by
  induction cs generalizing escaped lexeme with
  | nil => cases h
  | cons c cs ih =>
      cases escaped with
      | true =>
          rw [splitString] at h
          simp only [Bool.not_true, Bool.false_and, Bool.false_eq_true, if_false] at h
          split at h
          · next hsplit =>
              cases h
              rcases ih hsplit with ⟨body, rfl, hbody⟩
              exact ⟨c :: body, rfl, .escape hbody⟩
          · cases h
      | false =>
          rw [splitString] at h
          simp only [Bool.not_false, Bool.true_and] at h
          split at h
          · next hquote =>
              cases h
              rw [beq_iff_eq.mp hquote]
              exact ⟨[], rfl, .nil⟩
          · next hquote =>
              split at h
              · cases h
              · next hline =>
                  split at h
                  · next hsplit =>
                      cases h
                      rcases ih hsplit with ⟨body, rfl, hbody⟩
                      refine ⟨c :: body, rfl, ?_⟩
                      cases hslash : c == '\\' with
                      | true =>
                          rw [hslash] at hbody
                          rw [beq_iff_eq.mp hslash]
                          exact hbody
                      | false =>
                          rw [hslash] at hbody
                          exact .plain ⟨by simpa using hquote, by simpa using hslash,
                            by simpa using hline⟩ hbody
                  · cases h

/-- The scanner pairs backslashes with what follows them, and stops at the first quote
that belongs to no pair. -/
theorem exists_stringBody {cs lexeme after : List Char}
    (h : splitString false cs = some (lexeme, after)) :
    exists body, lexeme = body ++ ['"'] ∧ StringBody body :=
  exists_stringBody_of_escaped h

theorem splitString_stringBody {body : List Char} (h : StringBody body) (rest : List Char) :
    splitString false (body ++ '"' :: rest) = some (body ++ ['"'], rest) := by
  induction h with
  | nil => rfl
  | plain hc _ ih => exact splitString_plain hc ih
  | escape _ ih => exact splitString_escape _ ih

end Scan
end Reckon
