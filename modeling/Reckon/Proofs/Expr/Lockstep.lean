import Reckon.Proofs.Expr.Calls

/-!
# Sources in lockstep

A reader knows of a source only the words that it reads and that the last of them can be
taken back. Two sources whose states are related, and stay so whatever a reader does to
them, are read alike by any calls. A source in lockstep with itself keeps what no reader
can spoil.
-/

namespace Reckon
namespace Parser

open TokenSource

/-!
## A chain link by link

An attempt to read an expression comes to its end, or meets an operator and goes on with
another attempt behind it.
-/

/-- What an attempt comes to before it calls another. -/
inductive Link where
  | last (result : Except SyntaxError Parsed)
  /-- An operand and an operator, with the word that comes next. -/
  | operator (v : Value) (op : BinaryOp) (ahead : Token)

section Links

variable {σ : Type} [TokenSource σ]

/-- Reads up to the end of an expression or to an operator in it. -/
def readLink (s : σ) : Link × σ :=
  let first := scanWord s
  match readStart first.1 first.2 with
  | (.error e, s) => (.last (.error e), s)
  | (.ok .endOfStatement, s) => (.last (.ok .endOfStatement), s)
  | (.ok .endOfInput, s) => (.last (.ok .endOfInput), s)
  | (.ok (.operand v), s) =>
      let next := scanWord s
      match next.1.kind with
      | .step op => (.last (.ok (.expression (.step op (.literal v)))), next.2)
      | .binary op =>
          let ahead := scanWord next.2
          let s := unscan ahead.2
          if endsStatement ahead.1.kind then
            (.last (.error (.unexpected ahead.1 expectedAfterOperator)), s)
          else (.operator v op ahead.1, s)
      | _ => (.last (.ok (.expression (.literal v))), unscan next.2)

/-- What an attempt makes of the result of the one behind its operator. -/
def joinRest (v : Value) (op : BinaryOp) (ahead : Token) :
    Except SyntaxError Parsed -> Except SyntaxError Parsed
  | .ok (.expression rhs) => .ok (.expression (.graft op (.literal v) rhs))
  | .ok _ => .error (.unexpected ahead expectedAfterOperator)
  | .error e => .error e

theorem parseWithin_succ (limit room : Nat) (s : σ) :
    parseWithin limit (room + 1) s =
      match readLink s with
      | (.last result, s) => (result, s)
      | (.operator v op ahead, s) =>
          (joinRest v op ahead (parseWithin limit room s).1, (parseWithin limit room s).2) := by
  rw [parseWithin, readLink]
  dsimp only
  generalize readStart (scanWord s).1 (scanWord s).2 = start
  rcases start with ⟨result, behind⟩
  cases result with
  | error e => rfl
  | ok start =>
      cases start with
      | endOfStatement => rfl
      | endOfInput => rfl
      | operand v =>
          dsimp only
          cases (scanWord behind).1.kind
          case binary op =>
            dsimp only
            split
            · rfl
            · dsimp only
              generalize parseWithin limit room (unscan (scanWord (scanWord behind).2).2) = rest
              rcases rest with ⟨result, after⟩
              cases result with
              | error e => rfl
              | ok parsed => cases parsed <;> rfl
          all_goals rfl

end Links

/-!
## Related sources
-/

/-- Two results that are the same, with related states behind them. -/
inductive SameResult {α σ τ : Type} (R : σ -> τ -> Prop) : α × σ -> α × τ -> Prop where
  | mk (a : α) {s : σ} {t : τ} : R s t -> SameResult R (a, s) (a, t)

theorem SameResult.left_eq {α σ τ : Type} {R : σ -> τ -> Prop} {x : α × σ} {y : α × τ}
    (h : SameResult R x y) : x.1 = y.1 := by
  cases h
  rfl

theorem SameResult.right {α σ τ : Type} {R : σ -> τ -> Prop} {x : α × σ} {y : α × τ}
    (h : SameResult R x y) : R x.2 y.2 := by
  cases h with
  | mk _ hstates => exact hstates

/-- Whether related states yield the same word, and are related behind it, be it taken
back or not. -/
def Lockstep {σ τ : Type} [TokenSource σ] [TokenSource τ] (R : σ -> τ -> Prop) : Prop :=
  forall s t, R s t ->
    SameResult (fun s t => R s t ∧ R (unscan s) (unscan t)) (scanWord s) (scanWord t)

namespace Lockstep

variable {σ τ : Type} [TokenSource σ] [TokenSource τ] {R : σ -> τ -> Prop} {s : σ} {t : τ}

theorem readStart (hR : Lockstep R) (h : R s t) (first : Token) :
    SameResult R (readStart first s) (readStart first t) := by
  unfold Parser.readStart
  split
  · have hnumber := hR s t h
    unfold readSigned
    generalize scanWord s = x at hnumber ⊢
    generalize scanWord t = y at hnumber ⊢
    cases hnumber with
    | mk number hbehind =>
        dsimp only
        split
        · exact .mk _ hbehind.left
        · exact .mk _ hbehind.right
  · exact .mk _ h

theorem readLink (hR : Lockstep R) (h : R s t) : SameResult R (readLink s) (readLink t) := by
  have hfirst := hR s t h
  unfold Parser.readLink
  generalize scanWord s = x at hfirst ⊢
  generalize scanWord t = y at hfirst ⊢
  cases hfirst with
  | @mk first s t hfirst =>
      have hstart := hR.readStart hfirst.left first
      dsimp only
      generalize Parser.readStart first s = x at hstart ⊢
      generalize Parser.readStart first t = y at hstart ⊢
      cases hstart with
      | @mk start s t hstart =>
          cases start with
          | error e => exact .mk _ hstart
          | ok start =>
              cases start with
              | endOfStatement => exact .mk _ hstart
              | endOfInput => exact .mk _ hstart
              | operand v =>
                  have hnext := hR s t hstart
                  dsimp only
                  generalize scanWord s = x at hnext ⊢
                  generalize scanWord t = y at hnext ⊢
                  cases hnext with
                  | @mk next s t hnext =>
                      rcases next with ⟨kind, position, lexeme⟩
                      cases kind
                      case step op => exact .mk _ hnext.left
                      case binary op =>
                        have hahead := hR s t hnext.left
                        dsimp only
                        generalize scanWord s = x at hahead ⊢
                        generalize scanWord t = y at hahead ⊢
                        cases hahead with
                        | mk ahead hahead =>
                            dsimp only
                            split
                            · exact .mk _ hahead.right
                            · exact .mk _ hahead.right
                      all_goals exact .mk _ hnext.right

theorem parseWithin (hR : Lockstep R) (limit room : Nat) (h : R s t) :
    SameResult R (parseWithin limit room s) (parseWithin limit room t) := by
  induction room generalizing s t with
  | zero =>
      have hfirst := hR s t h
      rw [Parser.parseWithin, Parser.parseWithin, hfirst.left_eq]
      exact .mk _ hfirst.right.left
  | succ room ih =>
      have hlink := hR.readLink h
      rw [parseWithin_succ, parseWithin_succ]
      generalize Parser.readLink s = x at hlink ⊢
      generalize Parser.readLink t = y at hlink ⊢
      cases hlink with
      | @mk link s t hbehind =>
          cases link with
          | last result => exact .mk _ hbehind
          | operator v op ahead =>
              have hrest := ih hbehind
              dsimp only
              rw [hrest.left_eq]
              exact .mk _ hrest.right

theorem parse (hR : Lockstep R) (limit : Nat) (h : R s t) :
    SameResult R (parse limit s) (parse limit t) :=
  hR.parseWithin limit (limit + 1) h

theorem skipStatement (hR : Lockstep R) (h : R s t) : R (skipStatement s) (skipStatement t) := by
  induction hn : remaining s using Nat.strongRecOn generalizing s t with
  | ind n ih =>
      subst hn
      have hnext := hR s t h
      have hword := hnext.left_eq
      rw [Parser.skipStatement.eq_def s, Parser.skipStatement.eq_def t]
      by_cases hmark : (scanWord s).1.kind = .semicolon
      · rw [if_pos hmark, if_pos (hword ▸ hmark)]
        exact hnext.right.left
      · rw [if_neg hmark, if_neg (hword ▸ hmark)]
        by_cases hend : (scanWord s).1.kind = .endOfInput
        · rw [dif_pos hend, dif_pos (hword ▸ hend)]
          exact hnext.right.right
        · rw [dif_neg hend, dif_neg (hword ▸ hend)]
          exact ih _ (remaining_scanWord_lt hend) hnext.right.left rfl

theorem nextExpression (hR : Lockstep R) (limit : Nat) (h : R s t) :
    SameResult R (nextExpression limit s) (nextExpression limit t) := by
  induction hn : remaining s using Nat.strongRecOn generalizing s t with
  | ind n ih =>
      subst hn
      have hparse := hR.parse limit h
      rcases hs : Parser.parse limit s with ⟨result, behind⟩
      rcases ht : Parser.parse limit t with ⟨result', behind'⟩
      rw [hs, ht] at hparse
      cases hparse with
      | mk _ hbehind =>
          cases result with
          | error e =>
              rw [nextExpression_of_error hs, nextExpression_of_error ht]
              exact .mk _ hbehind
          | ok parsed =>
              cases parsed with
              | expression e =>
                  rw [nextExpression_of_expression hs, nextExpression_of_expression ht]
                  exact .mk _ hbehind
              | endOfInput =>
                  rw [nextExpression_of_endOfInput hs, nextExpression_of_endOfInput ht]
                  exact .mk _ hbehind
              | endOfStatement =>
                  rw [nextExpression_of_endOfStatement hs, nextExpression_of_endOfStatement ht]
                  have hlt : remaining (Parser.parse limit s).2 < remaining s :=
                    remaining_parse_lt (by simp [hs])
                  rw [hs] at hlt
                  exact ih _ hlt hbehind rfl

theorem perform (hR : Lockstep R) (limit : Nat) (h : R s t) (call : Call) :
    SameResult R (perform limit s call) (perform limit t call) := by
  cases call with
  | parse =>
      have hparse := hR.parse limit h
      rw [Parser.perform, Parser.perform, hparse.left_eq]
      exact .mk _ hparse.right
  | skip => exact .mk _ (hR.skipStatement h)
  | next =>
      have hnext := hR.nextExpression limit h
      rw [Parser.perform, Parser.perform, hnext.left_eq]
      exact .mk _ hnext.right

/-- Sources in lockstep answer all calls alike, and are still in lockstep behind them. -/
theorem answers_eq_and_after (hR : Lockstep R) (limit : Nat) (calls : List Call) (h : R s t) :
    answers limit calls s = answers limit calls t ∧
      R (after limit calls s) (after limit calls t) := by
  induction calls generalizing s t with
  | nil => exact ⟨rfl, h⟩
  | cons call calls ih =>
      have hcall := hR.perform limit h call
      rcases ih hcall.right with ⟨hanswers, hafter⟩
      rw [answers, answers, hcall.left_eq, hanswers]
      exact ⟨rfl, hafter⟩

end Lockstep

/-- What holds of the tokens of a source, and of those that come behind any of them, no
reader can change. -/
theorem lockstep_upcoming {σ : Type} [TokenSource σ] [Lawful σ] {P : (Nat -> Token) -> Prop}
    (hshift : forall f, P f -> P fun n => f (n + 1)) :
    Lockstep fun s t : σ => s = t ∧ P (upcoming s) := by
  rintro s _ ⟨rfl, h⟩
  have hscan : exists r : σ, scanWord s = scan r ∧ P (upcoming r) := by
    unfold scanWord
    dsimp only
    split
    · exact ⟨(scan s).2, rfl, hshift _ h⟩
    · exact ⟨s, rfl, h⟩
  rcases hscan with ⟨r, hword, hr⟩
  have hagain : P (upcoming (unscan (scan r).2)) := by
    rw [Lawful.upcoming_unscan_scan]
    exact hr
  rw [hword]
  exact .mk _ ⟨⟨rfl, hshift _ hr⟩, rfl, hagain⟩

end Parser
end Reckon
