import Reckon.Expr.Statements
import Reckon.Proofs.Expr.Transport

/-!
# Statements one after the other

The loop over the statements of a text goes from one attempt to the next, and
after an error to the next semicolon. Told as a relation between words and
results, a run of the loop over some words goes on into whatever follows their
end.
-/

namespace Reckon
namespace Parser

open TokenSource

/-!
## Skipping
-/

/-- The words behind the next semicolon. -/
def skip : List Token -> List Token
  | [] => []
  | t :: ws =>
      if t.kind = .semicolon then ws
      else if t.kind = .endOfInput then t :: ws
      else skip ws

theorem length_skip_le (ws : List Token) : (skip ws).length ≤ ws.length := by
  induction ws with
  | nil => exact Nat.le_refl _
  | cons t ws ih =>
      rw [skip]
      split
      · exact Nat.le_succ _
      · split
        · exact Nat.le_refl _
        · exact Nat.le_succ_of_le ih

theorem skip_sameWords {ws ws' : List Token} (h : List.Forall₂ Token.SameWord ws ws')
    (tail : List Token) :
    (List.Forall₂ Token.SameWord (skip ws) (skip ws') ∧
        skip (ws' ++ tail) = skip ws' ++ tail) ∨
      (skip ws = [] ∧ skip (ws' ++ tail) = skip tail) := by
  induction h with
  | nil => exact Or.inr ⟨rfl, rfl⟩
  | @cons t t' ws ws' ht hws ih =>
      have hkind' : t'.kind ≠ .endOfInput := by
        rw [ht.kind_eq]
        exact ht.kind_ne
      by_cases hkind : t.kind = .semicolon
      · have hmark : t'.kind = .semicolon := ht.kind_eq.trans hkind
        rw [List.cons_append, skip, skip, skip, if_pos hkind, if_pos hmark, if_pos hmark]
        exact Or.inl ⟨hws, rfl⟩
      · have hmark : ¬ t'.kind = .semicolon := by
          rw [ht.kind_eq]
          exact hkind
        rw [List.cons_append, skip, skip, skip, if_neg hkind, if_neg hmark, if_neg hmark,
          if_neg ht.kind_ne, if_neg hkind', if_neg hkind']
        exact ih

section Sources

variable {σ : Type} [TokenSource σ] [Lawful σ] {limit : Nat} {s after : σ}
  {ws rest : List Token} {last : Token}

theorem delivers_skipStatement (hlast : last.kind = .endOfInput) (hs : Delivers s ws last) :
    Delivers (skipStatement s) (skip ws) last := by
  induction ws generalizing s with
  | nil =>
      rcases hs.scanWord_nil with ⟨hnext, -, hagain⟩
      have hmark : ¬ (scanWord s).1.kind = .semicolon := by
        rw [hnext, hlast]
        exact TokenKind.noConfusion
      have hend : (scanWord s).1.kind = .endOfInput := by
        rw [hnext, hlast]
      rw [skipStatement, if_neg hmark, dif_pos hend]
      exact hagain
  | cons t ws ih =>
      rcases hs.scanWord_cons with ⟨hnext, hbehind, hagain⟩
      rw [skipStatement, skip, ← hnext]
      split
      · exact hbehind
      · split
        · rw [hnext]
          exact hagain
        · exact ih hbehind

/-!
## The loop step by step
-/

theorem delivers_parse {parsed : Except SyntaxError Parsed}
    (h : forall more, Reads limit (limit + 1) (ws ++ last :: more) parsed (rest ++ last :: more))
    (hs : Delivers s ws last) :
    exists after, parse limit s = (parsed, after) ∧ Delivers after rest last := by
  have hstep : forall n, (parse limit s).1 = parsed ∧
      Offers (parse limit s).2 (rest ++ last :: List.replicate n last) := by
    intro n
    rcases (h _).parseWithin (hs n) with ⟨after, hparse, hafter⟩
    rw [parse, hparse]
    exact ⟨rfl, hafter⟩
  exact ⟨(parse limit s).2, Prod.ext (hstep 0).left rfl, fun n => (hstep n).right⟩

omit [Lawful σ]

theorem statements_of_endOfInput (h : parse limit s = (.ok .endOfInput, after)) :
    statements limit s = [] := by
  rw [statements]
  split <;> simp_all

theorem statements_of_endOfStatement (h : parse limit s = (.ok .endOfStatement, after)) :
    statements limit s = statements limit after := by
  rw [statements]
  split <;> simp_all

theorem statements_of_expression {e : Expr}
    (h : parse limit s = (.ok (.expression e), after)) :
    statements limit s = .ok e :: statements limit after := by
  rw [statements]
  split <;> simp_all

theorem statements_of_error {e : SyntaxError} (h : parse limit s = (.error e, after)) :
    statements limit s = .error e :: statements limit (skipStatement after) := by
  rw [statements]
  split <;> simp_all

end Sources

/-- A run of the loop over words and the end behind them. -/
inductive Runs (limit : Nat) (last : Token) :
    List Token -> List (Except SyntaxError Expr) -> Prop where
  | nil : Runs limit last [] []
  | endOfStatement {ws rest : List Token} {rs : List (Except SyntaxError Expr)} :
      (forall more, Reads limit (limit + 1) (ws ++ last :: more) (.ok .endOfStatement)
        (rest ++ last :: more)) ->
      Runs limit last rest rs -> Runs limit last ws rs
  | expression {ws rest : List Token} {e : Expr} {rs : List (Except SyntaxError Expr)} :
      (forall more, Reads limit (limit + 1) (ws ++ last :: more) (.ok (.expression e))
        (rest ++ last :: more)) ->
      Runs limit last rest rs -> Runs limit last ws (.ok e :: rs)
  | error {ws rest : List Token} {e : SyntaxError} {rs : List (Except SyntaxError Expr)} :
      (forall more, Reads limit (limit + 1) (ws ++ last :: more) (.error e)
        (rest ++ last :: more)) ->
      Runs limit last (skip rest) rs -> Runs limit last ws (.error e :: rs)

/-- The loop makes of a source what a run makes of its words. -/
theorem Runs.statements {limit : Nat} {last : Token} {ws : List Token}
    {rs : List (Except SyntaxError Expr)} (h : Runs limit last ws rs)
    (hlast : last.kind = .endOfInput) {σ : Type} [TokenSource σ] [Lawful σ] {s : σ}
    (hs : Delivers s ws last) : Parser.statements limit s = rs := by
  induction h generalizing s with
  | nil =>
      have hend : (scanWord s).1.kind = .endOfInput := by
        rw [hs.scanWord_nil.left, hlast]
      exact statements_of_endOfInput (parse_of_endOfInput hend)
  | endOfStatement hreads _ ih =>
      rcases delivers_parse hreads hs with ⟨after, hparse, hafter⟩
      rw [statements_of_endOfStatement hparse]
      exact ih hafter
  | expression hreads _ ih =>
      rcases delivers_parse hreads hs with ⟨after, hparse, hafter⟩
      rw [statements_of_expression hparse, ih hafter]
  | error hreads _ ih =>
      rcases delivers_parse hreads hs with ⟨after, hparse, hafter⟩
      rw [statements_of_error hparse, ih (delivers_skipStatement hlast hafter)]

/-!
## Runs one after the other
-/

/-- What a run comes to behind some words: their end is the first of the words that
follow, and it makes no difference if it is skipped. -/
structure Continues (limit : Nat) (last end' : Token) (tail : List Token)
    (rs : List (Except SyntaxError Expr)) : Prop where
  endsStatement : endsStatement end'.kind = true
  starts : forall more, exists more', tail ++ last :: more = end' :: more'
  runs : Runs limit last tail rs
  runs_skip : Runs limit last (skip tail) rs

theorem continues_nil {limit : Nat} {last : Token} (h : last.kind = .endOfInput) :
    Continues limit last last [] [] where
  endsStatement := endsStatement_iff.mpr (Or.inr h)
  starts more := ⟨more, rfl⟩
  runs := .nil
  runs_skip := .nil

theorem continues_semicolon {limit : Nat} {last mark : Token} {ws : List Token}
    {rs : List (Except SyntaxError Expr)} (hmark : mark.kind = .semicolon)
    (h : Runs limit last ws rs) : Continues limit last mark (mark :: ws) rs where
  endsStatement := endsStatement_iff.mpr (Or.inl hmark)
  starts more := ⟨ws ++ last :: more, rfl⟩
  runs := by
    have hstart : readToken mark = .ok .endOfStatement := by
      simp only [readToken, hmark]
    refine .endOfStatement (fun more => .endOfStatement ?_) h
    rw [← hstart]
    apply Starts.token
    rw [hmark]
    rfl
  runs_skip := by
    rw [skip, if_pos hmark]
    exact h

theorem exists_runs {limit : Nat} {e last end' : Token} {tail : List Token}
    {rs : List (Except SyntaxError Expr)} (he : endsStatement e.kind = true)
    (htail : Continues limit last end' tail rs) {ws ws' : List Token}
    (h : List.Forall₂ Token.SameWord ws ws') :
    exists here there, Runs limit e ws here ∧ Runs limit last (ws' ++ tail) (there ++ rs) ∧
      List.Forall₂ (Agree e end') here there := by
  induction hn : ws.length using Nat.strongRecOn generalizing ws ws' with
  | ind n ih =>
      subst hn
      by_cases hne : ws = []
      · subst hne
        cases h
        exact ⟨[], [], .nil, htail.runs, .nil⟩
      · rcases exists_transports_reads he htail.endsStatement (limit + 1) h hne with
          ⟨r, r', rest, rest', hreads⟩
        have hthere : forall more, Reads limit (limit + 1) (ws' ++ tail ++ last :: more) r'
            (rest' ++ tail ++ last :: more) := by
          intro more
          rcases htail.starts more with ⟨more', hmore⟩
          rw [List.append_assoc, List.append_assoc, hmore]
          exact hreads.there more'
        have hskip : exists here there, Runs limit e (skip rest) here ∧
            Runs limit last (skip (rest' ++ tail)) (there ++ rs) ∧
            List.Forall₂ (Agree e end') here there := by
          rcases skip_sameWords hreads.sameWords tail with ⟨hsame, hbehind⟩ | ⟨hnone, hbehind⟩
          · rw [hbehind]
            exact ih _ (Nat.lt_of_le_of_lt (length_skip_le rest) hreads.shorter) hsame rfl
          · rw [hnone, hbehind]
            exact ⟨[], [], .nil, htail.runs_skip, .nil⟩
        cases hreads.agree with
        | ok parsed =>
            rcases ih _ hreads.shorter hreads.sameWords rfl with
              ⟨here, there, hhere, hrest, hagree⟩
            cases parsed with
            | expression x =>
                exact ⟨_, _, .expression hreads.here hhere, .expression hthere hrest,
                  .cons (.ok x) hagree⟩
            | endOfStatement =>
                exact ⟨_, _, .endOfStatement hreads.here hhere,
                  .endOfStatement hthere hrest, hagree⟩
            | endOfInput =>
                cases h with
                | nil => exact absurd rfl hne
                | cons hfirst _ =>
                    exact absurd (hreads.here []).kind_of_endOfInput hfirst.kind_ne
        | error hfault hend =>
            rcases hskip with ⟨here, there, hhere, hrest, hagree⟩
            exact ⟨_, _, .error hreads.here hhere, .error hthere hrest,
              .cons (.error hfault hend) hagree⟩
        | ended =>
            rcases hskip with ⟨here, there, hhere, hrest, hagree⟩
            exact ⟨_, _, .error hreads.here hhere, .error hthere hrest,
              .cons .ended hagree⟩

/-- The statements of words, a semicolon and more words are those of the one and
then those of the other. -/
theorem statements_append {σ : Type} [TokenSource σ] [Lawful σ] (limit : Nat)
    {s first second : σ} {as as' bs bs' : List Token} {mark last lastA lastB : Token}
    (hmark : mark.kind = .semicolon) (hlast : last.kind = .endOfInput)
    (hlastA : lastA.kind = .endOfInput) (hlastB : lastB.kind = .endOfInput)
    (has : List.Forall₂ Token.SameWord as as') (hbs : List.Forall₂ Token.SameWord bs bs')
    (hs : Delivers s (as' ++ mark :: bs') last) (hfirst : Delivers first as lastA)
    (hsecond : Delivers second bs lastB) :
    exists before behind, statements limit s = before ++ behind ∧
      List.Forall₂ (Agree lastA mark) (statements limit first) before ∧
      List.Forall₂ (Agree lastB last) (statements limit second) behind := by
  have hendA : endsStatement lastA.kind = true := endsStatement_iff.mpr (Or.inr hlastA)
  have hendB : endsStatement lastB.kind = true := endsStatement_iff.mpr (Or.inr hlastB)
  rcases exists_runs hendB (continues_nil hlast) hbs with
    ⟨hereB, behind, hrunB, hbehind, hagreeB⟩
  rw [List.append_nil, List.append_nil] at hbehind
  rcases exists_runs hendA (continues_semicolon hmark hbehind) has with
    ⟨hereA, before, hrunA, hwhole, hagreeA⟩
  refine ⟨before, behind, hwhole.statements hlast hs, ?_, ?_⟩
  · rw [hrunA.statements hlastA hfirst]
    exact hagreeA
  · rw [hrunB.statements hlastB hsecond]
    exact hagreeB

end Parser
end Reckon
