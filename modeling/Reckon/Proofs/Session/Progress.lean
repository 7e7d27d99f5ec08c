import Reckon.Proofs.Session.Layout

/-!
# Progress

Every attempt to read an expression that does not meet the end of the input uses up a
word of the text, and no later call brings it back. So a text has no more answers than
words, whether its statements are read one after the other or all that is asked for is
the next expression.
-/

namespace Reckon

open TokenSource (upcoming Yields Spaced Delivers)

instance (kind : TokenKind) : Decidable kind.IsWord :=
  inferInstanceAs (Decidable (kind ≠ .blank ∧ kind ≠ .endOfInput))

/-!
## The words that a buffer has left
-/

namespace TokenBuffer

/-- The tokens that a buffer has not yielded, or has been given back. -/
def ahead (b : TokenBuffer) : List Token :=
  (if b.pushedBack then b.last.toList else []) ++ b.lexer.tokens

/-- The tokens ahead that are neither blank nor the end of the input. -/
def words (b : TokenBuffer) : List Token :=
  b.ahead.filter fun t => t.kind.IsWord

theorem upcoming_eq_getD (b : TokenBuffer) (n : Nat) :
    upcoming b n = b.ahead.getD n b.lexer.endToken := by
  rcases b with ⟨lexer, last, pushedBack⟩
  cases pushedBack with
  | false =>
      rw [upcoming_eq_call, Lexer.call_eq]
      rfl
  | true =>
      cases last with
      | none =>
          cases n with
          | zero => exact Lexer.call_eq lexer 0
          | succ n =>
              have hcall : upcoming (⟨lexer, none, true⟩ : TokenBuffer) (n + 1) =
                  lexer.call (n + 1) := upcoming_eq_call lexer.next.2 (some lexer.next.1) n
              rw [hcall, Lexer.call_eq]
              rfl
      | some t =>
          cases n with
          | zero => rfl
          | succ n =>
              have hcall : upcoming (⟨lexer, some t, true⟩ : TokenBuffer) (n + 1) =
                  lexer.call n := upcoming_eq_call lexer (some t) n
              rw [hcall, Lexer.call_eq]
              rfl

theorem eq_ahead_append_of_yields {b : TokenBuffer} {ts : List Token} (h : Yields b ts)
    (hle : b.ahead.length ≤ ts.length) :
    ts = b.ahead ++ List.replicate (ts.length - b.ahead.length) b.lexer.endToken := by
  apply List.ext_getElem?
  intro n
  by_cases hn : n < ts.length
  · rw [List.getElem?_eq_getElem hn, ← h n _ (List.getElem?_eq_getElem hn), upcoming_eq_getD,
      List.getD_eq_getElem?_getD]
    by_cases hahead : n < b.ahead.length
    · rw [List.getElem?_append_left hahead, List.getElem?_eq_getElem hahead]
      rfl
    · have hge := Nat.le_of_not_lt hahead
      rw [List.getElem?_append_right hge, List.getElem?_eq_none hge, List.getElem?_replicate,
        if_pos (Nat.sub_lt_sub_right hge hn)]
      rfl
  · have hge := Nat.le_of_not_lt hn
    rw [List.getElem?_eq_none hge, eq_comm, List.getElem?_eq_none]
    rw [List.length_append, List.length_replicate, Nat.add_sub_cancel' hle]
    exact hge

end TokenBuffer

theorem TokenSource.Spaced.filter_eq {ws ts : List Token} (h : Spaced ws ts) :
    ts.filter (fun t => t.kind ≠ .blank) = ws := by
  induction h with
  | nil => rfl
  | word ht _ ih => rw [List.filter_cons_of_pos (by simpa using ht), ih]
  | blank hb ht _ ih =>
      rw [List.filter_cons_of_neg (by simpa using hb),
        List.filter_cons_of_pos (by simpa using ht), ih]

theorem TokenBuffer.words_eq_of_delivers {b : TokenBuffer} {ws : List Token} {last : Token}
    (h : Delivers b ws last) (hlast : last.kind = .endOfInput)
    (hws : forall t, t ∈ ws -> t.kind ≠ .endOfInput) : b.words = ws := by
  rcases h b.ahead.length with ⟨ts, hspaced, hyields⟩
  have hle : b.ahead.length ≤ ts.length := by
    have hlength := congrArg List.length hspaced.filter_eq
    rw [List.length_append, List.length_cons, List.length_replicate] at hlength
    have hfilter := List.length_filter_le (fun t : Token => t.kind ≠ .blank) ts
    omega
  have hsplit : forall l : List Token, l.filter (fun t => t.kind.IsWord) =
      (l.filter fun t => t.kind ≠ .blank).filter fun t => t.kind ≠ .endOfInput := by
    intro l
    rw [List.filter_filter]
    apply List.filter_congr
    intro t _
    rw [Bool.and_comm, ← Bool.decide_and]
    rfl
  have hahead : ts.filter (fun t => t.kind.IsWord) = b.words := by
    rw [eq_ahead_append_of_yields hyields hle, List.filter_append, words,
      List.filter_replicate_of_neg (by simp [TokenKind.IsWord, Lexer.endToken]),
      List.append_nil]
  have hfilter : ws.filter (fun t => t.kind ≠ .endOfInput) = ws :=
    List.filter_eq_self.mpr fun t ht => by simpa using hws t ht
  rw [← hahead, hsplit, hspaced.filter_eq, List.filter_append, hfilter, ← List.replicate_succ,
    List.filter_replicate_of_neg (by simpa using hlast), List.append_nil]

namespace Parser

open TokenSource

/-!
## Counting answers
-/

theorem Alongside.left {σ : Type} [TokenSource σ] {last last' : Token} {ws ws' : List Token}
    {s s' : σ} (h : Alongside last last' ws ws' s s') : Alongside last last ws ws s s where
  end_here := h.end_here
  end_there := h.end_here
  here := h.here
  there := h.here
  sameWords := by
    have hsame := h.sameWords
    clear h
    induction hsame with
    | nil => exact .nil
    | cons ht _ ih => exact .cons ⟨rfl, rfl, ht.kind_ne, ht.describe_ne⟩ ih

theorem Alongside.words_eq {last last' : Token} {ws ws' : List Token} {b b' : TokenBuffer}
    (h : Alongside last last' ws ws' b b') : b.words = ws :=
  TokenBuffer.words_eq_of_delivers h.here h.end_here fun t ht =>
    (List.forall₂_same.mp h.left.sameWords t ht).kind_ne

section Counting

variable {σ : Type} [TokenSource σ] [Lawful σ] {last last' : Token} {ws ws' : List Token}
  {s s' : σ}

theorem Alongside.item_eq_none (h : Alongside last last' [] ws' s s') (limit n : Nat) :
    item limit s n = none := by
  rcases h.parse_nil limit with ⟨hparse, -, hbehind⟩
  have hnext := nextExpression_of_endOfInput hparse
  induction n generalizing s s' ws' with
  | zero => rw [item, hnext]
  | succ n ih =>
      rw [item, hnext]
      rcases hbehind.parse_nil limit with ⟨hparse', -, hbehind'⟩
      exact ih hbehind hparse' hbehind' (nextExpression_of_endOfInput hparse')

theorem Alongside.exists_item_isSome_iff (h : Alongside last last' ws ws' s s')
    (limit : Nat) :
    exists k, k ≤ ws.length ∧ forall n, (item limit s n).isSome = true <-> n < k := by
  induction hn : ws.length using Nat.strongRecOn generalizing ws ws' s s' with
  | ind n ih =>
      subst hn
      rcases h.exists_next limit with ⟨used, rest, rest', rfl, hrest, -, hnext⟩
      rcases hnext with ⟨hnone, rfl⟩ | ⟨hsome, hused⟩
      · refine ⟨0, Nat.zero_le _, ?_⟩
        intro n
        have hitem : item limit s n = none := by
          cases n with
          | zero => exact hnone
          | succ n => exact hrest.item_eq_none limit n
        simp [hitem]
      · have hshorter : rest.length < (used ++ rest).length := by
          simp [List.length_pos_iff.mpr hused]
        rcases ih rest.length hshorter hrest rfl with ⟨k, hk, hiff⟩
        refine ⟨k + 1, Nat.le_trans (Nat.succ_le_succ hk) hshorter, ?_⟩
        intro n
        cases n with
        | zero => simp [item, Option.isSome_iff_ne_none, hsome]
        | succ n => rw [item, hiff n, Nat.succ_lt_succ_iff]

theorem Alongside.length_statements_le (h : Alongside last last' ws ws' s s')
    (limit : Nat) : (statements limit s).length ≤ ws.length := by
  induction hn : ws.length using Nat.strongRecOn generalizing ws ws' s s' with
  | ind n ih =>
      subst hn
      by_cases hne : ws = []
      · subst hne
        rcases h.parse_nil limit with ⟨hparse, -, -⟩
        rw [statements_of_endOfInput hparse]
        exact Nat.le_refl _
      · rcases h.exists_parse limit hne with
          ⟨used, rest, rest', hused, rfl, hrest, -, hinput⟩
        have hshorter : rest.length < (used ++ rest).length := by
          simp [List.length_pos_iff.mpr hused]
        rcases hparse : parse limit s with ⟨r, behind⟩
        rw [hparse] at hrest hinput
        cases r with
        | error e =>
            have hskip := Nat.lt_of_le_of_lt (length_skip_le rest) hshorter
            rw [statements_of_error hparse, List.length_cons]
            exact Nat.lt_of_le_of_lt (ih _ hskip hrest.skip rfl) hskip
        | ok parsed =>
            have hrest := ih _ hshorter hrest rfl
            cases parsed with
            | expression e =>
                rw [statements_of_expression hparse, List.length_cons]
                exact Nat.lt_of_le_of_lt hrest hshorter
            | endOfStatement =>
                rw [statements_of_endOfStatement hparse]
                exact Nat.le_trans hrest (Nat.le_of_lt hshorter)
            | endOfInput => exact absurd rfl hinput

end Counting

/-!
## Calls on a text
-/

theorem alongside_self (cs : List Char) :
    Alongside (Lexer.ofChars cs).endToken (Lexer.ofChars cs).endToken (Lexer.ofChars cs).words
      (Lexer.ofChars cs).words (TokenBuffer.ofChars cs) (TokenBuffer.ofChars cs) :=
  alongside_ofChars rfl

/-- After any calls, the words of a text that are left are a part of it from some word
on, and the reader finds these. -/
theorem exists_alongside_after (limit : Nat) (cs : List Char) (calls : List Call) :
    exists ws, ws <:+ (Lexer.ofChars cs).words ∧
      Alongside (Lexer.ofChars cs).endToken (Lexer.ofChars cs).endToken ws ws
        (after limit calls (TokenBuffer.ofChars cs))
        (after limit calls (TokenBuffer.ofChars cs)) := by
  rcases (alongside_self cs).exists_after limit calls with ⟨ws, _, hws, hafter⟩
  exact ⟨ws, hws, hafter.left⟩

/-- Whatever calls were made on a text before, an attempt to read an expression meets the
end of the input if no words are left, and otherwise uses up some, which no later call
brings back. Skipping uses up the words as far as the next semicolon, or all. So there
are at most as many expressions and errors to be asked for as words, and nothing for
ever after; and a line has at most as many responses as words. -/
theorem words_of_calls (cs : List Char) :
    (forall limit calls,
      let s := after limit calls (TokenBuffer.ofChars cs)
      s.words <:+ (Lexer.ofChars cs).words ∧
        ((parse limit s).1 = .ok .endOfInput ∧ s.words = [] ∨
          (parse limit s).1 ≠ .ok .endOfInput ∧
            exists used, used ≠ [] ∧ s.words = used ++ (parse limit s).2.words) ∧
        (forall more, (after limit more s).words <:+ s.words) ∧
        (skipStatement s).words = (s.words.dropWhile fun t => t.kind ≠ .semicolon).tail ∧
        exists k, k ≤ s.words.length ∧
          forall n, (item limit s n).isSome = true <-> n < k) ∧
      forall settings,
        (Session.responses settings cs).length ≤ (Lexer.ofChars cs).words.length := by
  constructor
  · intro limit calls
    rcases exists_alongside_after limit cs calls with ⟨ws, hws, hafter⟩
    intro s
    have hwords : s.words = ws := hafter.words_eq
    rw [hwords]
    refine ⟨hws, ?_, ?_, ?_, hafter.exists_item_isSome_iff limit⟩
    · by_cases hne : ws = []
      · subst hne
        exact Or.inl ⟨congrArg Prod.fst (hafter.parse_nil limit).left, rfl⟩
      · rcases hafter.exists_parse limit hne with
          ⟨used, rest, _, hused, hsplit, hrest, -, hinput⟩
        refine Or.inr ⟨hinput, used, hused, ?_⟩
        rw [hrest.words_eq, hsplit]
    · intro more
      rcases hafter.exists_after limit more with ⟨rest, _, hrest, hmore⟩
      rw [hmore.words_eq]
      exact hrest
    · rw [hafter.skip.words_eq]
      exact skip_eq fun t ht => (List.forall₂_same.mp hafter.sameWords t ht).kind_ne
  · intro settings
    rw [Session.responses, List.length_map]
    exact (alongside_self cs).length_statements_le settings.maxDepth

end Parser
end Reckon
