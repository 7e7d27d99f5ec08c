import Reckon.Proofs.Expr.Pushback

/-!
# Errors that come of a text

A reader makes its errors in three places: where an attempt begins, where nothing stands
behind an operator, and where the room runs out. What holds of these errors wherever in a
text the reader may be holds of every error that comes of the text, whatever calls are
made on it.
-/

namespace Reckon
namespace Parser

open TokenSource

/-!
## Places in a text
-/

section Places

variable {σ : Type} [TokenSource σ]

/-- A source that yields the tokens of a text behind some first ones, and from there on
the end of the input. -/
def Behind (cs : List Char) (before : List Token) (s : σ) : Prop :=
  exists after, (Lexer.ofChars cs).tokens = before ++ after ∧
    forall n, upcoming s n = after.getD n (Lexer.ofChars cs).endToken

/-- A source that is somewhere in a text. -/
def Inside (cs : List Char) (s : σ) : Prop :=
  exists before, Behind cs before s

variable {cs : List Char} {s : σ}

theorem behind_ofChars (cs : List Char) : Behind cs [] (TokenBuffer.ofChars cs) := by
  refine ⟨(Lexer.ofChars cs).tokens, rfl, fun n => ?_⟩
  have hcall : upcoming (TokenBuffer.ofChars cs) n = (Lexer.ofChars cs).call n :=
    TokenBuffer.upcoming_eq_call (Lexer.ofChars cs) none n
  rw [hcall, Lexer.call_eq]

theorem Inside.upcoming (h : Inside cs s) {property : Token -> Prop}
    (hend : property (Lexer.ofChars cs).endToken)
    (htokens : forall t, t ∈ (Lexer.ofChars cs).tokens -> property t) (n : Nat) :
    property (upcoming s n) := by
  rcases h with ⟨before, after, htext, hnext⟩
  rw [hnext, List.getD_eq_getElem?_getD]
  cases ht : after[n]? with
  | none => exact hend
  | some t =>
      apply htokens
      rw [htext]
      exact List.mem_append_right before (List.mem_of_getElem? ht)

theorem Inside.scanWord (h : Inside cs s) {property : Token -> Prop}
    (hend : property (Lexer.ofChars cs).endToken)
    (htokens : forall t, t ∈ (Lexer.ofChars cs).tokens -> property t) :
    property (scanWord s).1 := by
  unfold TokenSource.scanWord
  dsimp only
  split
  · exact h.upcoming hend htokens 1
  · exact h.upcoming hend htokens 0

theorem Inside.blanksApart (h : Inside cs s) : BlanksApart s := by
  rcases h with ⟨before, after, htext, hnext⟩
  have hcall : forall n,
      TokenSource.upcoming s n = (Lexer.ofChars cs).call (before.length + n) := by
    intro n
    rw [hnext, Lexer.call_eq, htext, List.getD_eq_getElem?_getD, List.getD_eq_getElem?_getD,
      List.getElem?_append_right (Nat.le_add_right _ _), Nat.add_sub_cancel_left]
  intro n
  rw [hcall, hcall]
  exact Lexer.kind_call_succ (Lexer.ofChars cs) (before.length + n)

theorem lockstep_inside [Lawful σ] : Lockstep fun s t : σ => s = t ∧ Inside cs s := by
  apply lockstep_upcoming (P := fun f => exists before after,
    (Lexer.ofChars cs).tokens = before ++ after ∧
      forall n, f n = after.getD n (Lexer.ofChars cs).endToken)
  rintro f ⟨before, after, htext, hnext⟩
  cases after with
  | nil => exact ⟨before, [], htext, fun n => hnext (n + 1)⟩
  | cons t after =>
      refine ⟨before ++ [t], after, ?_, fun n => hnext (n + 1)⟩
      rw [htext, List.append_assoc, List.singleton_append]

end Places

/-!
## Errors of a source
-/

/-- A property that errors have wherever a reader can make one in a text. -/
structure HoldsOfErrors (σ : Type) [TokenSource σ] (cs : List Char) (limit : Nat)
    (property : SyntaxError -> Prop) : Prop where
  start : forall s : σ, Inside cs s -> forall e,
    (readStart (scanWord s).1 (scanWord s).2).1 = .error e -> property e
  operand : forall s : σ, Inside cs s ->
    property (.unexpected (scanWord s).1 expectedAfterOperator)
  room : forall s : σ, Inside cs s -> endsStatement (scanWord s).1.kind = false ->
    property (.atToken (.tooDeep limit) (scanWord s).1)

/-- The error that an answer tells of. -/
def Answer.error? : Answer -> Option SyntaxError
  | .parsed (.error e) => some e
  | .item (some (.error e)) => some e
  | _ => none

namespace HoldsOfErrors

variable {σ : Type} [TokenSource σ] [Lawful σ] {cs : List Char} {limit : Nat}
  {property : SyntaxError -> Prop} {s : σ} {e : SyntaxError}

theorem of_readLink (hP : HoldsOfErrors σ cs limit property) (hs : Inside cs s)
    (h : (readLink s).1 = .last (.error e)) : property e := by
  have hfirst := (lockstep_inside s s ⟨rfl, hs⟩).right.left
  have hbehind := (lockstep_inside.readStart hfirst (scanWord s).1).right
  have hstart := hP.start s hs
  unfold readLink at h
  dsimp only at h
  generalize readStart (scanWord s).1 (scanWord s).2 = start at h hstart hbehind
  rcases start with ⟨result, behind⟩
  cases result with
  | error fault =>
      cases h
      exact hstart _ rfl
  | ok start =>
      cases start with
      | endOfStatement => cases h
      | endOfInput => cases h
      | operand v =>
          have hnext := (lockstep_inside behind behind hbehind).right.left.right
          dsimp only at h
          cases hkind : (scanWord behind).1.kind
          case binary op =>
            simp only [hkind] at h
            split at h
            · cases h
              exact hP.operand _ hnext
            · cases h
          all_goals
            simp only [hkind] at h
            cases h

theorem of_parseWithin (hP : HoldsOfErrors σ cs limit property) {room : Nat}
    (hs : Inside cs s) (hroom : room = 0 -> endsStatement (scanWord s).1.kind = false)
    (h : (parseWithin limit room s).1 = .error e) : property e := by
  -- The word where the room runs out stands behind an operator, and ends nothing.
  induction room generalizing s e with
  | zero =>
      rw [parseWithin] at h
      cases h
      exact hP.room s hs (hroom rfl)
  | succ room ih =>
      have hbehind := (lockstep_inside.readLink ⟨rfl, hs⟩).right.right
      rw [parseWithin_succ] at h
      rcases hlink : readLink s with ⟨link, behind⟩
      rw [hlink] at h hbehind
      cases link with
      | last result =>
          apply hP.of_readLink hs
          rw [hlink]
          exact congrArg Link.last h
      | operator v op ahead =>
          rcases ahead_of_readLink hs.blanksApart hlink with ⟨hword, hends⟩
          rw [← hword] at hends
          have hnot := not_isEnd_parseWithin hends limit room
          have hrest := fun e => ih (e := e) hbehind fun _ => hends
          change joinRest v op ahead (parseWithin limit room behind).1 = _ at h
          unfold joinRest at h
          split at h
          · cases h
          · next parsed hexpression hresult =>
              cases parsed with
              | expression rhs => exact absurd rfl (hexpression rhs)
              | endOfStatement => exact absurd (Or.inl hresult) hnot
              | endOfInput => exact absurd (Or.inr hresult) hnot
          · next hresult =>
              cases h
              exact hrest _ hresult

theorem of_parse (hP : HoldsOfErrors σ cs limit property) (hs : Inside cs s)
    (h : (parse limit s).1 = .error e) : property e :=
  hP.of_parseWithin hs (fun hroom => absurd hroom (Nat.succ_ne_zero limit)) h

theorem of_nextExpression (hP : HoldsOfErrors σ cs limit property) (hs : Inside cs s)
    (h : (nextExpression limit s).1 = some (.error e)) : property e := by
  induction hn : remaining s using Nat.strongRecOn generalizing s with
  | ind n ih =>
      subst hn
      have hbehind := (lockstep_inside.parse limit ⟨rfl, hs⟩).right.right
      rcases hparse : parse limit s with ⟨result, behind⟩
      rw [hparse] at hbehind
      cases result with
      | error fault =>
          rw [nextExpression_of_error hparse] at h
          cases h
          exact hP.of_parse hs (congrArg Prod.fst hparse)
      | ok parsed =>
          cases parsed with
          | expression _ =>
              rw [nextExpression_of_expression hparse] at h
              cases h
          | endOfInput =>
              rw [nextExpression_of_endOfInput hparse] at h
              cases h
          | endOfStatement =>
              have hlt : remaining (parse limit s).2 < remaining s :=
                remaining_parse_lt (by simp [hparse])
              rw [nextExpression_of_endOfStatement hparse] at h
              rw [hparse] at hlt
              exact ih _ hlt hbehind h rfl

theorem of_perform (hP : HoldsOfErrors σ cs limit property) {call : Call}
    (hs : Inside cs s) (h : (perform limit s call).1.error? = some e) : property e := by
  cases call with
  | parse =>
      rw [perform] at h
      cases hparse : (parse limit s).1 with
      | error found =>
          rw [hparse] at h
          cases h
          exact hP.of_parse hs hparse
      | ok parsed =>
          rw [hparse] at h
          cases h
  | skip => cases h
  | next =>
      rw [perform] at h
      cases hnext : (nextExpression limit s).1 with
      | none =>
          rw [hnext] at h
          cases h
      | some result =>
          rw [hnext] at h
          cases result with
          | error found =>
              cases h
              exact hP.of_nextExpression hs hnext
          | ok e => cases h

theorem of_answers (hP : HoldsOfErrors σ cs limit property) {calls : List Call}
    (hs : Inside cs s) :
    forall answer, answer ∈ answers limit calls s ->
      forall e, answer.error? = some e -> property e := by
  induction calls generalizing s with
  | nil =>
      intro answer hanswer
      cases hanswer
  | cons call calls ih =>
      intro answer hanswer
      rcases List.mem_cons.mp hanswer with rfl | hanswer
      · exact fun e => hP.of_perform hs
      · exact ih (lockstep_inside.perform limit ⟨rfl, hs⟩ call).right.right answer hanswer

theorem of_statements (hP : HoldsOfErrors σ cs limit property) (hs : Inside cs s) :
    forall e, .error e ∈ statements limit s -> property e := by
  induction hn : remaining s using Nat.strongRecOn generalizing s with
  | ind n ih =>
      subst hn
      intro e he
      have hbehind := (lockstep_inside.parse limit ⟨rfl, hs⟩).right.right
      have hlt : (parse limit s).1 ≠ .ok .endOfInput ->
          remaining (parse limit s).2 < remaining s := remaining_parse_lt
      rcases hparse : parse limit s with ⟨result, behind⟩
      rw [hparse] at hbehind hlt
      cases result with
      | error fault =>
          rw [statements_of_error hparse] at he
          rcases List.mem_cons.mp he with heq | he
          · cases heq
            exact hP.of_parse hs (congrArg Prod.fst hparse)
          · have hskip := (lockstep_inside.skipStatement ⟨rfl, hbehind⟩).right
            have hle := remaining_skipStatement_le behind
            exact ih _ (Nat.lt_of_le_of_lt hle (hlt (by simp))) hskip rfl e he
      | ok parsed =>
          cases parsed with
          | expression _ =>
              rw [statements_of_expression hparse] at he
              rcases List.mem_cons.mp he with heq | he
              · cases heq
              · exact ih _ (hlt (by simp)) hbehind rfl e he
          | endOfStatement =>
              rw [statements_of_endOfStatement hparse] at he
              exact ih _ (hlt (by simp)) hbehind rfl e he
          | endOfInput =>
              rw [statements_of_endOfInput hparse] at he
              cases he

end HoldsOfErrors

/-!
## Errors in a text
-/

/-- The errors that come of a text, be it read by any calls or statement by statement. -/
inductive Reports (limit : Nat) (cs : List Char) (e : SyntaxError) : Prop where
  | call {calls : List Call} {answer : Answer} :
      answer ∈ answers limit calls (TokenBuffer.ofChars cs) -> answer.error? = some e ->
      Reports limit cs e
  | statement : .error e ∈ statements limit (TokenBuffer.ofChars cs) -> Reports limit cs e

theorem HoldsOfErrors.of_reports {limit : Nat} {cs : List Char}
    {property : SyntaxError -> Prop} {e : SyntaxError}
    (hP : HoldsOfErrors TokenBuffer cs limit property) (h : Reports limit cs e) :
    property e := by
  have hs : Inside cs (TokenBuffer.ofChars cs) := ⟨[], behind_ofChars cs⟩
  cases h with
  | call hanswer he => exact hP.of_answers hs _ hanswer e he
  | statement he => exact hP.of_statements hs e he

end Parser
end Reckon
