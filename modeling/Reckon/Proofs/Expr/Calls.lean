import Mathlib.Data.Option.Defs
import Reckon.Proofs.Expr.Loop

/-!
# One call after the other

A reader can be asked for the next expression, be it at the end of a statement or
not, and told to pass over a statement, in any order and whatever came of it before.
Each call leaves some of the words that it found, and two readers that find the same
words answer alike and leave the same.
-/

namespace Reckon
namespace Parser

open TokenSource

/-!
## Calls and answers
-/

inductive Call where
  /-- Read an expression, or the end of a statement or of the input. -/
  | parse
  /-- Pass over everything up to and including the next semicolon. -/
  | skip
  /-- Read an expression, passing over the ends of statements before it. -/
  | next
  deriving DecidableEq, Repr

inductive Answer where
  | parsed (result : Except SyntaxError Parsed)
  | skipped
  | item (result? : Option (Except SyntaxError Expr))
  deriving DecidableEq, Repr

section Sources

variable {σ : Type} [TokenSource σ]

/-- What comes of a call, and the state behind it. -/
def perform (limit : Nat) (s : σ) : Call -> Answer × σ
  | .parse => (.parsed (parse limit s).1, (parse limit s).2)
  | .skip => (.skipped, skipStatement s)
  | .next => (.item (nextExpression limit s).1, (nextExpression limit s).2)

/-- What comes of each of some calls. -/
def answers (limit : Nat) : List Call -> σ -> List Answer
  | [], _ => []
  | call :: calls, s =>
      (perform limit s call).1 :: answers limit calls (perform limit s call).2

/-- The state behind some calls. -/
def after (limit : Nat) : List Call -> σ -> σ
  | [], s => s
  | call :: calls, s => after limit calls (perform limit s call).2

/-- What the reader yields after `n` other expressions or errors. -/
def item (limit : Nat) : σ -> Nat -> Option (Except SyntaxError Expr)
  | s, 0 => (nextExpression limit s).1
  | s, n + 1 => item limit (nextExpression limit s).2 n

/-!
## The next expression step by step
-/

variable {limit : Nat} {s behind : σ}

theorem nextExpression_of_endOfInput (h : parse limit s = (.ok .endOfInput, behind)) :
    nextExpression limit s = (none, behind) := by
  rw [nextExpression]
  split <;> simp_all

theorem nextExpression_of_endOfStatement
    (h : parse limit s = (.ok .endOfStatement, behind)) :
    nextExpression limit s = nextExpression limit behind := by
  rw [nextExpression]
  split <;> simp_all

theorem nextExpression_of_expression {e : Expr}
    (h : parse limit s = (.ok (.expression e), behind)) :
    nextExpression limit s = (some (.ok e), behind) := by
  rw [nextExpression]
  split <;> simp_all

theorem nextExpression_of_error {e : SyntaxError}
    (h : parse limit s = (.error e, behind)) :
    nextExpression limit s = (some (.error e), behind) := by
  rw [nextExpression]
  split <;> simp_all

end Sources

/-!
## Words that are used up
-/

theorem Starts.exists_append {ws rest : List Token} {start : Except SyntaxError Start}
    (h : Starts ws start rest) : exists used, used ≠ [] ∧ ws = used ++ rest := by
  cases h with
  | @token first _ _ => exact ⟨[first], List.cons_ne_nil _ _, rfl⟩
  | @signed sign number _ _ _ _ => exact ⟨[sign, number], List.cons_ne_nil _ _, rfl⟩
  | @unsigned sign other _ _ _ => exact ⟨[sign], List.cons_ne_nil _ _, rfl⟩

theorem Reads.exists_append {limit room : Nat} {ws rest : List Token}
    {parsed : Except SyntaxError Parsed} (h : Reads limit room ws parsed rest) :
    exists used, used ≠ [] ∧ ws = used ++ rest := by
  induction h with
  | @tooDeep first _ => exact ⟨[first], List.cons_ne_nil _ _, rfl⟩
  | startError hstart => exact hstart.exists_append
  | endOfStatement hstart => exact hstart.exists_append
  | endOfInput hstart => exact hstart.exists_append
  | operand hstart _ _ => exact hstart.exists_append
  | @step _ _ _ _ next _ hstart _ =>
      rcases hstart.exists_append with ⟨used, hne, rfl⟩
      exact ⟨used ++ [next], List.append_ne_nil_of_left_ne_nil hne _, by simp⟩
  | @dangling _ _ _ _ next _ _ hstart _ _ =>
      rcases hstart.exists_append with ⟨used, hne, rfl⟩
      exact ⟨used ++ [next], List.append_ne_nil_of_left_ne_nil hne _, by simp⟩
  | @chain _ _ _ _ _ next _ _ _ hstart _ _ _ ih =>
      rcases hstart.exists_append with ⟨used, hne, rfl⟩
      rcases ih with ⟨more, -, hmore⟩
      rw [hmore]
      exact ⟨used ++ next :: more, List.append_ne_nil_of_left_ne_nil hne _, by simp⟩
  | @chainError _ _ _ _ _ next _ _ _ hstart _ _ _ ih =>
      rcases hstart.exists_append with ⟨used, hne, rfl⟩
      rcases ih with ⟨more, -, hmore⟩
      rw [hmore]
      exact ⟨used ++ next :: more, List.append_ne_nil_of_left_ne_nil hne _, by simp⟩

theorem skip_eq {ws : List Token} (h : forall t, t ∈ ws -> t.kind ≠ .endOfInput) :
    skip ws = (ws.dropWhile fun t => t.kind ≠ .semicolon).tail := by
  induction ws with
  | nil => rfl
  | cons t ws ih =>
      rw [skip]
      split
      · next hmark =>
          rw [List.dropWhile_cons_of_neg (by simpa using hmark), List.tail_cons]
      · next hmark =>
          rw [List.dropWhile_cons_of_pos (by simpa using hmark),
            if_neg (h t List.mem_cons_self), ih fun u hu => h u (List.mem_cons_of_mem t hu)]

theorem skip_suffix (ws : List Token) : skip ws <:+ ws := by
  induction ws with
  | nil => exact List.suffix_rfl
  | cons t ws ih =>
      rw [skip]
      split
      · exact List.suffix_cons t ws
      · split
        · exact List.suffix_rfl
        · exact ih.trans (List.suffix_cons t ws)

/-!
## Two readers with the same words
-/

/-- Two sources that have the same words in store up to the end of the input. -/
structure Alongside {σ : Type} [TokenSource σ] (last last' : Token) (ws ws' : List Token)
    (s s' : σ) : Prop where
  end_here : last.kind = .endOfInput
  end_there : last'.kind = .endOfInput
  here : Delivers s ws last
  there : Delivers s' ws' last'
  sameWords : List.Forall₂ Token.SameWord ws ws'

section Alongside

variable {σ : Type} [TokenSource σ] [Lawful σ] {last last' : Token} {ws ws' : List Token}
  {s s' : σ}

theorem Alongside.parse_nil (h : Alongside last last' [] ws' s s') (limit : Nat) :
    parse limit s = (.ok .endOfInput, (scanWord s).2) ∧
      parse limit s' = (.ok .endOfInput, (scanWord s').2) ∧
      Alongside last last' [] [] (scanWord s).2 (scanWord s').2 := by
  cases h.sameWords
  rcases h.here.scanWord_nil with ⟨hnext, hbehind, -⟩
  rcases h.there.scanWord_nil with ⟨hnext', hbehind', -⟩
  refine ⟨parse_of_endOfInput ?_, parse_of_endOfInput ?_, h.end_here, h.end_there, hbehind,
    hbehind', .nil⟩
  · rw [hnext, h.end_here]
  · rw [hnext', h.end_there]

theorem Alongside.exists_parse (h : Alongside last last' ws ws' s s') (limit : Nat)
    (hne : ws ≠ []) :
    exists used rest rest', used ≠ [] ∧ ws = used ++ rest ∧
      Alongside last last' rest rest' (parse limit s).2 (parse limit s').2 ∧
      Agree last last' (parse limit s).1 (parse limit s').1 ∧
      (parse limit s).1 ≠ .ok .endOfInput := by
  have hend : endsStatement last.kind = true := endsStatement_iff.mpr (Or.inr h.end_here)
  have hend' : endsStatement last'.kind = true := endsStatement_iff.mpr (Or.inr h.end_there)
  rcases exists_transports_reads hend hend' (limit + 1) h.sameWords hne with
    ⟨r, r', rest, rest', hreads⟩
  rcases delivers_parse hreads.here h.here with ⟨behind, hparse, hbehind⟩
  rcases delivers_parse hreads.there h.there with ⟨behind', hparse', hbehind'⟩
  rcases (hreads.here []).exists_append with ⟨used, hused, hws⟩
  rw [← List.append_assoc] at hws
  rw [hparse, hparse']
  refine ⟨used, rest, rest', hused, List.append_cancel_right hws,
    ⟨h.end_here, h.end_there, hbehind, hbehind', hreads.sameWords⟩, hreads.agree, ?_⟩
  intro hinput
  have hr : r = .ok .endOfInput := hinput
  subst hr
  cases h.sameWords with
  | nil => exact hne rfl
  | cons hfirst _ => exact hfirst.kind_ne (hreads.here []).kind_of_endOfInput

theorem Alongside.skip (h : Alongside last last' ws ws' s s') :
    Alongside last last' (skip ws) (skip ws') (skipStatement s) (skipStatement s') where
  end_here := h.end_here
  end_there := h.end_there
  here := delivers_skipStatement h.end_here h.here
  there := delivers_skipStatement h.end_there h.there
  sameWords := by
    rcases skip_sameWords h.sameWords [] with ⟨hsame, -⟩ | ⟨hnone, hnone'⟩
    · exact hsame
    · rw [List.append_nil] at hnone'
      rw [hnone, hnone']
      exact .nil

theorem Alongside.exists_next (h : Alongside last last' ws ws' s s') (limit : Nat) :
    exists used rest rest', ws = used ++ rest ∧
      Alongside last last' rest rest' (nextExpression limit s).2 (nextExpression limit s').2 ∧
      Option.Rel (Agree last last') (nextExpression limit s).1 (nextExpression limit s').1 ∧
      ((nextExpression limit s).1 = none ∧ rest = [] ∨
        (nextExpression limit s).1 ≠ none ∧ used ≠ []) := by
  induction hn : ws.length using Nat.strongRecOn generalizing ws ws' s s' with
  | ind n ih =>
      subst hn
      by_cases hne : ws = []
      · subst hne
        rcases h.parse_nil limit with ⟨hparse, hparse', hbehind⟩
        rw [nextExpression_of_endOfInput hparse, nextExpression_of_endOfInput hparse']
        exact ⟨[], [], [], rfl, hbehind, .none, Or.inl ⟨rfl, rfl⟩⟩
      · rcases h.exists_parse limit hne with
          ⟨used, rest, rest', hused, rfl, hrest, hagree, hinput⟩
        rcases hparse : parse limit s with ⟨r, behind⟩
        rcases hparse' : parse limit s' with ⟨r', behind'⟩
        rw [hparse] at hrest hagree hinput
        rw [hparse'] at hrest hagree
        cases hagree with
        | ok parsed =>
            cases parsed with
            | expression e =>
                rw [nextExpression_of_expression hparse, nextExpression_of_expression hparse']
                exact ⟨used, rest, rest', rfl, hrest, .some (.ok e),
                  Or.inr ⟨Option.some_ne_none _, hused⟩⟩
            | endOfStatement =>
                rw [nextExpression_of_endOfStatement hparse,
                  nextExpression_of_endOfStatement hparse']
                rcases ih rest.length (by simp [List.length_pos_iff.mpr hused]) hrest rfl with
                  ⟨more, after, after', hmore, hafter, hrel, hnext⟩
                refine ⟨used ++ more, after, after', ?_, hafter, hrel, ?_⟩
                · rw [hmore, List.append_assoc]
                · exact hnext.imp_right fun hitem =>
                    ⟨hitem.left, List.append_ne_nil_of_left_ne_nil hused more⟩
            | endOfInput => exact absurd rfl hinput
        | error hfault hend =>
            rw [nextExpression_of_error hparse, nextExpression_of_error hparse']
            exact ⟨used, rest, rest', rfl, hrest, .some (.error hfault hend),
              Or.inr ⟨Option.some_ne_none _, hused⟩⟩
        | ended =>
            rw [nextExpression_of_error hparse, nextExpression_of_error hparse']
            exact ⟨used, rest, rest', rfl, hrest, .some .ended,
              Or.inr ⟨Option.some_ne_none _, hused⟩⟩

/-!
## Any calls
-/

/-- Answers that are the same but for the places of errors. -/
inductive Answer.Agree (last last' : Token) : Answer -> Answer -> Prop where
  | parsed {r r' : Except SyntaxError Parsed} :
      Parser.Agree last last' r r' -> Answer.Agree last last' (.parsed r) (.parsed r')
  | skipped : Answer.Agree last last' .skipped .skipped
  | item {r r' : Option (Except SyntaxError Expr)} :
      Option.Rel (Parser.Agree last last') r r' -> Answer.Agree last last' (.item r) (.item r')

/-- One call on both readers leaves the same words behind the same ones. -/
theorem Alongside.exists_perform (h : Alongside last last' ws ws' s s') (limit : Nat)
    (call : Call) :
    exists rest rest', rest <:+ ws ∧
      Alongside last last' rest rest' (perform limit s call).2 (perform limit s' call).2 ∧
      Answer.Agree last last' (perform limit s call).1 (perform limit s' call).1 := by
  cases call with
  | parse =>
      by_cases hne : ws = []
      · subst hne
        rcases h.parse_nil limit with ⟨hparse, hparse', hbehind⟩
        rw [perform, perform, hparse, hparse']
        exact ⟨[], [], List.suffix_rfl, hbehind, .parsed (.ok _)⟩
      · rcases h.exists_parse limit hne with
          ⟨used, rest, rest', -, hws, hrest, hagree, -⟩
        exact ⟨rest, rest', ⟨used, hws.symm⟩, hrest, .parsed hagree⟩
  | skip => exact ⟨Parser.skip ws, Parser.skip ws', skip_suffix ws, h.skip, .skipped⟩
  | next =>
      rcases h.exists_next limit with
        ⟨used, rest, rest', hws, hrest, hrel, -⟩
      exact ⟨rest, rest', ⟨used, hws.symm⟩, hrest, .item hrel⟩

theorem Alongside.exists_after (h : Alongside last last' ws ws' s s') (limit : Nat)
    (calls : List Call) :
    exists rest rest', rest <:+ ws ∧
      Alongside last last' rest rest' (after limit calls s) (after limit calls s') := by
  induction calls generalizing ws ws' s s' with
  | nil => exact ⟨ws, ws', List.suffix_rfl, h⟩
  | cons call calls ih =>
      rcases h.exists_perform limit call with ⟨rest, rest', hrest, hcall, -⟩
      rcases ih hcall with ⟨final, final', hfinal, hcalls⟩
      exact ⟨final, final', hfinal.trans hrest, hcalls⟩

theorem Alongside.forall₂_answers (h : Alongside last last' ws ws' s s') (limit : Nat)
    (calls : List Call) :
    List.Forall₂ (Answer.Agree last last') (answers limit calls s) (answers limit calls s') := by
  induction calls generalizing ws ws' s s' with
  | nil => exact .nil
  | cons call calls ih =>
      rcases h.exists_perform limit call with ⟨rest, rest', -, hcall, hagree⟩
      exact .cons hagree (ih hcall)

end Alongside

end Parser
end Reckon
