import Reckon.Proofs.Session.Joining
import Reckon.Proofs.Text.Unquoting
import Reckon.Proofs.Token.Shapes

/-!
# Texts put together from their words

The extent of a token is decided by what follows it. If a space follows in its place,
the token keeps its kind and its extent, so that the words of a text may be set apart
by single spaces and are then the words of the new text.
-/

namespace Reckon

namespace Scan

/-!
## What a space behind a token changes
-/

theorem startsBlank_eq_false_iff {c : Char} {rest : List Char} :
    startsBlank c rest = false <->
      Unicode.isWhiteSpace c = false ∧ (c = '/' -> Text.StopsRun (· == '/') rest) := by
  rw [startsBlank, Bool.or_eq_false_iff, startsComment, Bool.and_eq_false_imp]
  apply and_congr_right
  intro _
  rw [beq_iff_eq]
  apply imp_congr_right
  intro _
  cases rest with
  | nil => exact iff_of_true rfl (Text.stopsRun_nil _)
  | cons d after =>
      constructor
      · exact fun h => Text.stopsRun_cons (by simpa using h)
      · exact fun h => by simpa using h d rfl

theorem startsBlank_append {c : Char} {body after tail : List Char}
    (h : startsBlank c (body ++ after) = false) (htail : Apart tail) :
    startsBlank c (body ++ tail) = false := by
  rw [startsBlank_eq_false_iff] at h ⊢
  exact ⟨h.left, fun hc => (h.right hc).append (htail.stopsRun rfl)⟩

theorem first_of_startsBlank_eq_false {c : Char} {rest : List Char}
    (h : startsBlank c rest = false) :
    first c rest =
      if c == '"' then string c rest
      else if c.isDigit then number (c :: rest)
      else if Word.isStart c then
        ⟨Word.kind (c :: rest.takeWhile Word.isPart), c :: rest.takeWhile Word.isPart,
          rest.dropWhile Word.isPart⟩
      else mark c rest := by
  have hstart : ¬ (Unicode.isWhiteSpace c || startsComment c rest) = true :=
    Bool.eq_false_iff.mp h
  rw [first, if_neg hstart]

theorem string_of_splitString {c : Char} {cs body after : List Char}
    (h : splitString false cs = some (body, after)) :
    string c cs = ⟨.literal .string, c :: body, after⟩ := by
  rw [string, h]

theorem exists_splitString {c : Char} {cs : List Char}
    (hlegal : (string c cs).kind ≠ .illegal) :
    exists body after, splitString false cs = some (body, after) := by
  cases hsplit : splitString false cs with
  | none =>
      rw [string, hsplit] at hlegal
      exact absurd rfl hlegal
  | some split => exact ⟨split.1, split.2, rfl⟩

theorem string_append_tail {c : Char} {rest body : List Char}
    (hlegal : (string c rest).kind ≠ .illegal) (hlexeme : (string c rest).lexeme = c :: body)
    (tail : List Char) :
    string c (body ++ tail) = ⟨(string c rest).kind, c :: body, tail⟩ := by
  rcases exists_splitString hlegal with ⟨inner, after, hsplit⟩
  rcases exists_stringBody hsplit with ⟨between, rfl, hbetween⟩
  rw [string_of_splitString hsplit] at hlexeme ⊢
  injection hlexeme with _ hbody
  rw [← hbody, List.append_assoc, List.singleton_append,
    string_of_splitString (splitString_stringBody hbetween tail)]

theorem number_append_tail {c : Char} {rest body tail : List Char} (hc : c.isDigit = true)
    (hlexeme : (number (c :: rest)).lexeme = c :: body) (htail : Apart tail) :
    number (c :: (body ++ tail)) = ⟨(number (c :: rest)).kind, c :: body, tail⟩ := by
  rcases exists_numberShape hc rest with ⟨form, hkind, hshape⟩
  rw [hlexeme] at hshape
  rw [hkind]
  exact hshape.number_append htail

theorem pairKind?_space (c : Char) : pairKind? c ' ' = none := by
  unfold pairKind?
  split <;> first | rfl | contradiction

theorem mark_of_apart (c : Char) {tail : List Char} (htail : Apart tail) :
    mark c tail = single c tail := by
  cases tail with
  | nil => rfl
  | cons d after =>
      have hd : d = ' ' := by simpa using htail d rfl
      rw [mark, hd, pairKind?_space]

theorem mark_append_tail {c : Char} {rest body tail : List Char}
    (hlexeme : (mark c rest).lexeme = c :: body) (htail : Apart tail) :
    mark c (body ++ tail) = ⟨(mark c rest).kind, c :: body, tail⟩ := by
  cases rest with
  | nil =>
      cases hlexeme
      exact mark_of_apart c htail
  | cons d after =>
      cases hpair : pairKind? c d with
      | some kind =>
          have hmark (behind : List Char) : mark c (d :: behind) = ⟨kind, [c, d], behind⟩ := by
            rw [mark, hpair]
          rw [hmark] at hlexeme ⊢
          cases hlexeme
          exact hmark tail
      | none =>
          have hmark : mark c (d :: after) = single c (d :: after) := by
            rw [mark, hpair]
          rw [hmark] at hlexeme ⊢
          cases hlexeme
          exact mark_of_apart c htail

/-- Characters that are a token of a kind wherever a space or the end of the text
follows them. -/
def StandsAlone (kind : TokenKind) (lexeme : List Char) : Prop :=
  exists c body, lexeme = c :: body ∧
    forall tail, Apart tail -> first c (body ++ tail) = ⟨kind, lexeme, tail⟩

theorem exists_lexeme_eq_cons (c : Char) (rest : List Char) :
    exists body, (first c rest).lexeme = c :: body ∧ body ++ (first c rest).rest = rest := by
  have happend := lexeme_append_rest c rest
  rcases List.exists_cons_of_ne_nil (lexeme_ne_nil c rest) with ⟨d, body, hlexeme⟩
  rw [hlexeme, List.cons_append] at happend
  injection happend with hhead hbody
  exact ⟨body, hhead ▸ hlexeme, hbody⟩

theorem StandsAlone.exists_cons {kind : TokenKind} {lexeme : List Char}
    (h : StandsAlone kind lexeme) : exists c body, lexeme = c :: body := by
  rcases h with ⟨c, body, hlexeme, -⟩
  exact ⟨c, body, hlexeme⟩

/-- Every token but a blank and an illegal one stands alone. -/
theorem standsAlone_first {c : Char} {rest : List Char}
    (hblank : (first c rest).kind ≠ .blank) (hlegal : (first c rest).kind ≠ .illegal) :
    StandsAlone (first c rest).kind (first c rest).lexeme := by
  have hstart : startsBlank c rest = false := by
    cases h : startsBlank c rest with
    | true => exact absurd (kind_first_of_startsBlank h) hblank
    | false => rfl
  rcases exists_lexeme_eq_cons c rest with ⟨body, hlexeme, hrest⟩
  refine ⟨c, body, hlexeme, fun tail htail => ?_⟩
  have hstart' : startsBlank c (body ++ tail) = false := by
    rw [← hrest] at hstart
    exact startsBlank_append hstart htail
  rw [hlexeme, first_of_startsBlank_eq_false hstart']
  rw [first_of_startsBlank_eq_false hstart] at hlegal hlexeme ⊢
  split
  · next hquote =>
      rw [if_pos hquote] at hlegal hlexeme
      exact string_append_tail hlegal hlexeme tail
  · next hquote =>
      rw [if_neg hquote] at hlexeme
      split
      · next hdigit =>
          rw [if_pos hdigit] at hlexeme
          exact number_append_tail hdigit hlexeme htail
      · next hdigit =>
          rw [if_neg hdigit] at hlexeme
          split
          · next hword =>
              rw [if_pos hword] at hlexeme
              injection hlexeme with _ hbody
              have hparts : forall d, d ∈ body -> Word.isPart d = true := by
                rw [← hbody]
                exact fun d => List.mem_takeWhile_imp
              have hstops : Text.StopsRun Word.isPart tail := htail.stopsRun (by decide)
              rw [hbody, Text.takeWhile_append hparts hstops,
                Text.dropWhile_append hparts hstops]
          · next hword =>
              rw [if_neg hword] at hlexeme
              exact mark_append_tail hlexeme htail

theorem StandsAlone.startsBlank_eq_false {kind : TokenKind} {c : Char} {body tail : List Char}
    (h : StandsAlone kind (c :: body)) (hkind : kind ≠ .blank) (htail : Apart tail) :
    startsBlank c (body ++ tail) = false := by
  rcases h with ⟨d, inner, hlexeme, hfirst⟩
  cases hlexeme
  cases hstart : startsBlank c (body ++ tail) with
  | false => rfl
  | true =>
      have hblank := kind_first_of_startsBlank hstart
      rw [hfirst tail htail] at hblank
      exact absurd hblank hkind

theorem splitBlank_of_startsBlank {c : Char} {rest : List Char}
    (h : startsBlank c rest = false) : splitBlank false (c :: rest) = ([], c :: rest) := by
  rw [startsBlank, Bool.or_eq_false_iff] at h
  unfold splitBlank
  split
  · next hcs => cases hcs
  · next hcomment _ => cases hcomment
  · next hcs =>
      cases hcs
      cases h.right
  · next hcs =>
      cases hcs
      rw [h.left]
      rfl

theorem first_space {c : Char} {rest : List Char} (h : startsBlank c rest = false) :
    first ' ' (c :: rest) = ⟨.blank, [' '], c :: rest⟩ := by
  have hsplit : splitBlank false (' ' :: c :: rest) = ([' '], c :: rest) := by
    rw [splitBlank, splitBlank_of_startsBlank h]
    · rfl
    · intro _ hslash
      cases hslash
  show (⟨.blank, (splitBlank false (' ' :: c :: rest)).1,
    (splitBlank false (' ' :: c :: rest)).2⟩ : Result) = _
  rw [hsplit]

end Scan

namespace Lexer

open Scan (Apart StandsAlone)

/-!
## Texts made of words
-/

/-- A space and the text of a word, one behind the other for all of them. -/
def spaced (ws : List (TokenKind × List Char)) : List Char :=
  ws.flatMap fun w => ' ' :: w.2

theorem apart_spaced (ws : List (TokenKind × List Char)) : Apart (spaced ws) := by
  cases ws with
  | nil => exact Scan.apart_nil
  | cons w ws => exact Scan.apart_space _

theorem intercalate_space (w : TokenKind × List Char) (ws : List (TokenKind × List Char)) :
    [' '].intercalate ((w :: ws).map Prod.snd) = w.2 ++ spaced ws := by
  induction ws generalizing w with
  | nil => simp [spaced]
  | cons v ws ih =>
      rw [List.map_cons, List.map_cons, List.intercalate_cons_cons, ← List.map_cons, ih,
        List.append_assoc]
      rfl

theorem words_of_kind_eq_blank {lexer : Lexer} (hrest : lexer.rest ≠ [])
    (hkind : lexer.next.1.kind = .blank) : lexer.words = lexer.next.2.words := by
  rw [words, tokens_of_rest_ne_nil hrest, List.filter_cons_of_neg (by simpa using hkind),
    words]

theorem words_of_rest_eq_nil {lexer : Lexer} (hrest : lexer.rest = []) :
    lexer.words = [] := by
  rw [words, tokens_of_rest_eq_nil hrest, List.filter_nil]

/-- A word that stands alone is the first word of a text, and all others come behind it. -/
theorem words_append {kind : TokenKind} {lexeme tail : List Char} (h : StandsAlone kind lexeme)
    (hkind : kind ≠ .blank) (htail : Apart tail) (position : Position) :
    (Lexer.mk (lexeme ++ tail) position).words =
      ⟨kind, position, lexeme⟩ :: (Lexer.mk tail (position.advance lexeme)).words := by
  rcases h with ⟨c, body, rfl, hfirst⟩
  have hnext : (Lexer.mk (c :: (body ++ tail)) position).next =
      (⟨kind, position, c :: body⟩, ⟨tail, position.advance (c :: body)⟩) := by
    simp only [next, hfirst tail htail]
  have hrest : (Lexer.mk (c :: (body ++ tail)) position).rest ≠ [] := List.cons_ne_nil _ _
  have hword : (Lexer.mk (c :: (body ++ tail)) position).next.1.kind ≠ .blank := by
    rw [hnext]
    exact hkind
  rw [List.cons_append, words_of_kind_ne_blank hrest hword, hnext]

theorem words_space {kind : TokenKind} {lexeme tail : List Char} (h : StandsAlone kind lexeme)
    (hkind : kind ≠ .blank) (htail : Apart tail) (position : Position) :
    (Lexer.mk (' ' :: (lexeme ++ tail)) position).words =
      (Lexer.mk (lexeme ++ tail) (position.advance [' '])).words := by
  rcases h.exists_cons with ⟨c, body, rfl⟩
  have hfirst := Scan.first_space (h.startsBlank_eq_false hkind htail)
  have hnext : (Lexer.mk (' ' :: c :: (body ++ tail)) position).next =
      (⟨.blank, position, [' ']⟩, ⟨c :: (body ++ tail), position.advance [' ']⟩) := by
    simp only [next, hfirst]
  have hrest : (Lexer.mk (' ' :: c :: (body ++ tail)) position).rest ≠ [] :=
    List.cons_ne_nil _ _
  have hblank : (Lexer.mk (' ' :: c :: (body ++ tail)) position).next.1.kind = .blank := by
    rw [hnext]
  rw [List.cons_append, words_of_kind_eq_blank hrest hblank, hnext]

theorem map_word_words_spaced {ws : List (TokenKind × List Char)}
    (h : forall w, w ∈ ws -> w.1 ≠ .blank ∧ StandsAlone w.1 w.2) (position : Position) :
    (Lexer.mk (spaced ws) position).words.map Token.word = ws := by
  induction ws generalizing position with
  | nil =>
      rw [words_of_rest_eq_nil rfl]
      rfl
  | cons w ws ih =>
      rcases h w List.mem_cons_self with ⟨hkind, halone⟩
      have htail := apart_spaced ws
      have hrest := ih fun v hv => h v (List.mem_cons_of_mem w hv)
      have hcons : spaced (w :: ws) = ' ' :: (w.2 ++ spaced ws) := rfl
      rw [hcons, words_space halone hkind htail, words_append halone hkind htail,
        List.map_cons, hrest]
      rfl

theorem map_word_words_intercalate {ws : List (TokenKind × List Char)}
    (h : forall w, w ∈ ws -> w.1 ≠ .blank ∧ StandsAlone w.1 w.2) :
    (ofChars ([' '].intercalate (ws.map Prod.snd))).words.map Token.word = ws := by
  cases ws with
  | nil =>
      rw [words_of_rest_eq_nil rfl]
      rfl
  | cons w ws =>
      rcases h w List.mem_cons_self with ⟨hkind, halone⟩
      have hrest := map_word_words_spaced fun v hv => h v (List.mem_cons_of_mem w hv)
      rw [intercalate_space, ofChars, words_append halone hkind (apart_spaced ws),
        List.map_cons, hrest]
      rfl

theorem standsAlone_words {lexer : Lexer}
    (h : forall t, t ∈ lexer.tokens -> t.kind ≠ .illegal) :
    forall t, t ∈ lexer.words -> t.kind ≠ .blank ∧ StandsAlone t.kind t.lexeme := by
  have hall : forall t, t ∈ lexer.tokens ->
      t.kind ≠ .blank -> t.kind ≠ .illegal -> StandsAlone t.kind t.lexeme := by
    refine forall_mem_tokens ?_ lexer
    intro lexer hrest hblank hlegal
    rcases lexer with ⟨rest, position⟩
    rcases List.exists_cons_of_ne_nil hrest with ⟨c, cs, rfl⟩
    exact Scan.standsAlone_first hblank hlegal
  intro t ht
  have hmem := List.mem_filter.mp ht
  have hblank : t.kind ≠ .blank := by simpa using hmem.right
  exact ⟨hblank, hall t hmem.left hblank (h t hmem.left)⟩

/-- A text of legal tokens, put together anew from its words with a single space between
each two of them, has the same words again. -/
theorem words_intercalate_lexemes {cs : List Char}
    (h : forall t, t ∈ (ofChars cs).tokens -> t.kind ≠ .illegal) :
    (ofChars ([' '].intercalate ((ofChars cs).words.map Token.lexeme))).words.map Token.word =
      (ofChars cs).words.map Token.word := by
  have hwords : forall w, w ∈ (ofChars cs).words.map Token.word ->
      w.1 ≠ .blank ∧ StandsAlone w.1 w.2 := by
    intro w hw
    rcases List.mem_map.mp hw with ⟨t, ht, rfl⟩
    exact standsAlone_words h t ht
  have hlexemes : (ofChars cs).words.map Token.lexeme =
      ((ofChars cs).words.map Token.word).map Prod.snd := by
    rw [List.map_map]
    rfl
  rw [hlexemes, map_word_words_intercalate hwords]

/-- Operators without and with a space between them, an exponent that is none, a unit
and a comment. -/
theorem words_intercalate_lexemes_of_text :
    (forall t, t ∈ (ofChars "1e+-2.5h3<< =\"\\\"\"//".toList).tokens -> t.kind ≠ .illegal) ∧
      (ofChars "1e + - 2.5h3 << = \"\\\"\"".toList).words.map Token.word =
        (ofChars "1e+-2.5h3<< =\"\\\"\"//".toList).words.map Token.word := by
  have hlegal : forall t, t ∈ (ofChars "1e+-2.5h3<< =\"\\\"\"//".toList).tokens ->
      t.kind ≠ .illegal := by
    decide +kernel
  refine ⟨hlegal, ?_⟩
  have hjoined : "1e + - 2.5h3 << = \"\\\"\"".toList =
      [' '].intercalate ((ofChars "1e+-2.5h3<< =\"\\\"\"//".toList).words.map
        Token.lexeme) := by
    decide +kernel
  rw [hjoined]
  exact words_intercalate_lexemes hlegal

end Lexer
end Reckon
