import Mathlib.Data.List.Forall2
import Reckon.Proofs.Token.Outlook

/-!
# A buffer as a place among tokens

A buffer remembers one token and a flag, while its lexer may be further on. Seen from
outside it is a place in the sequence of all tokens, which goes on with the end of the
input for ever: reading moves the place on, and taking a token back moves it back by one,
as long as no two tokens are taken back in a row.
-/

namespace Reckon

namespace TokenSource

/-- What can be asked of a source. -/
inductive Action where
  | scan
  | scanWord
  | unscan
  deriving DecidableEq, Repr

/-- Actions among which two that take a token back have a token read between them. -/
def Alternate (actions : List Action) : Prop :=
  actions.IsChain fun a b => a = .unscan -> b ≠ .unscan

instance (actions : List Action) : Decidable (Alternate actions) :=
  inferInstanceAs (Decidable (List.IsChain _ actions))

/-- The tokens that some actions yield, one after the other, told by what one action
does. To take a token back yields none. -/
def yieldsOf {σ : Type} (act : σ -> Action -> Option Token × σ) :
    List Action -> σ -> List (Option Token)
  | [], _ => []
  | action :: actions, s => (act s action).1 :: yieldsOf act actions (act s action).2

variable {σ : Type} [TokenSource σ]

/-- The token that an action yields, and the state behind it. -/
def act (s : σ) : Action -> Option Token × σ
  | .scan => (some (scan s).1, (scan s).2)
  | .scanWord => (some (scanWord s).1, (scanWord s).2)
  | .unscan => (none, unscan s)

end TokenSource

open TokenSource (Action Alternate act yieldsOf upcoming)

namespace Lexer

theorem kind_call_succ (lexer : Lexer) (n : Nat) (h : (lexer.call n).kind = .blank) :
    (lexer.call (n + 1)).kind ≠ .blank := by
  induction n generalizing lexer with
  | zero => exact kind_next_next h
  | succ n ih => exact ih lexer.next.2 h

end Lexer

/-!
## Places
-/

/-- A place in a sequence of tokens, behind which another token goes on for ever. -/
structure TokenCursor where
  tokens : List Token
  last : Token
  index : Nat
  deriving DecidableEq, Repr

namespace TokenCursor

/-- The start of the tokens of a text, with the end of the input behind them. -/
def ofChars (cs : List Char) : TokenCursor :=
  ⟨(Lexer.ofChars cs).tokens, (Lexer.ofChars cs).endToken, 0⟩

def tokenAt (c : TokenCursor) (n : Nat) : Token :=
  c.tokens.getD n c.last

/-- The number of blank tokens, one at most, at the place. -/
def blanks (c : TokenCursor) : Nat :=
  if (c.tokenAt c.index).kind = .blank then 1 else 0

/-- The token that an action yields, and the place behind it. Nothing is in front of the
first place. -/
def act (c : TokenCursor) : Action -> Option Token × TokenCursor
  | .scan => (some (c.tokenAt c.index), { c with index := c.index + 1 })
  | .scanWord =>
      (some (c.tokenAt (c.index + c.blanks)), { c with index := c.index + c.blanks + 1 })
  | .unscan => (none, { c with index := c.index - 1 })

/-- A sequence in which no two blank tokens stand in a row. -/
def BlanksApart (c : TokenCursor) : Prop :=
  forall n, (c.tokenAt n).kind = .blank -> (c.tokenAt (n + 1)).kind ≠ .blank

theorem blanksApart_ofChars (cs : List Char) : (ofChars cs).BlanksApart := by
  intro n
  have hcall : forall k, (ofChars cs).tokenAt k = (Lexer.ofChars cs).call k :=
    fun k => (Lexer.call_eq (Lexer.ofChars cs) k).symm
  rw [hcall, hcall]
  exact Lexer.kind_call_succ (Lexer.ofChars cs) n

theorem BlanksApart.kind_ne {c : TokenCursor} (h : c.BlanksApart) :
    (c.tokenAt (c.index + c.blanks)).kind ≠ .blank := by
  unfold blanks
  split
  · next hblank => exact h c.index hblank
  · next hblank => exact hblank

theorem BlanksApart.forall₂_yieldsOf {c : TokenCursor} (h : c.BlanksApart)
    (actions : List Action) :
    List.Forall₂ (fun action yield =>
        action = .scanWord -> exists t, yield = some t ∧ t.kind ≠ .blank) actions
      (yieldsOf act actions c) := by
  induction actions generalizing c with
  | nil => exact .nil
  | cons action actions ih =>
      have hbehind : (c.act action).2.BlanksApart := by
        cases action <;> exact h
      refine .cons ?_ (ih hbehind)
      rintro rfl
      exact ⟨_, rfl, h.kind_ne⟩

end TokenCursor

namespace TokenBuffer

/-!
## Buffers at places
-/

/-- A buffer at a place: it yields the tokens from there on, and the token that it can
take back is the one in front. -/
structure At (b : TokenBuffer) (c : TokenCursor) : Prop where
  upcoming_eq : forall n, upcoming b n = c.tokenAt (c.index + n)
  last_eq : b.pushedBack = false ->
    b.last = if c.index = 0 then none else some (c.tokenAt (c.index - 1))

theorem at_ofChars (cs : List Char) : At (ofChars cs) (TokenCursor.ofChars cs) where
  upcoming_eq n := by
    have hcall : upcoming (ofChars cs) n = (Lexer.ofChars cs).call n :=
      upcoming_eq_call (Lexer.ofChars cs) none n
    have hindex : (TokenCursor.ofChars cs).index + n = n := Nat.zero_add n
    rw [hcall, Lexer.call_eq, hindex]
    rfl
  last_eq _ := rfl

theorem last_scan (b : TokenBuffer) : b.scan.2.last = some b.scan.1 := by
  rcases b with ⟨lexer, last, pushedBack⟩
  cases pushedBack with
  | false => rfl
  | true => cases last <;> rfl

theorem pushedBack_scan (b : TokenBuffer) : b.scan.2.pushedBack = false := by
  rcases b with ⟨lexer, last, pushedBack⟩
  cases pushedBack with
  | false => rfl
  | true => cases last <;> rfl

variable {b : TokenBuffer} {c : TokenCursor}

theorem At.scan_eq (h : At b c) : b.scan.1 = c.tokenAt c.index :=
  h.upcoming_eq 0

theorem At.scan (h : At b c) : At b.scan.2 { c with index := c.index + 1 } where
  upcoming_eq n := by
    have hnext : upcoming b.scan.2 n = c.tokenAt (c.index + (n + 1)) := h.upcoming_eq (n + 1)
    rw [hnext, Nat.add_comm n 1, ← Nat.add_assoc]
    rfl
  last_eq _ := by
    rw [last_scan, h.scan_eq]
    rfl

theorem upcoming_unscan_zero {t : Token} (hlast : b.last = some t) :
    upcoming b.unscan 0 = t := by
  rcases b with ⟨lexer, last, pushedBack⟩
  cases hlast
  rfl

theorem upcoming_unscan_succ {t : Token} (hpushed : b.pushedBack = false)
    (hlast : b.last = some t) (n : Nat) : upcoming b.unscan (n + 1) = upcoming b n := by
  rcases b with ⟨lexer, last, pushedBack⟩
  cases hpushed
  cases hlast
  have hscan : (TokenSource.scan (TokenBuffer.unscan ⟨lexer, some t, false⟩)).2 =
      (⟨lexer, some t, false⟩ : TokenBuffer) := rfl
  rw [upcoming, hscan]

theorem At.unscan (h : At b c) (hpushed : b.pushedBack = false) :
    At b.unscan { c with index := c.index - 1 } := by
  rcases c with ⟨tokens, last, index⟩
  cases index with
  | zero =>
      -- before anything is read there is no token that could be taken back
      have hlast : b.last = none := h.last_eq hpushed
      have hsame : b.unscan = b := by
        rw [TokenBuffer.unscan, hlast, Option.isSome_none, ← hpushed, ← hlast]
      rw [hsame]
      exact h
  | succ k =>
      have hlast : b.last = some (TokenCursor.tokenAt ⟨tokens, last, k + 1⟩ k) :=
        h.last_eq hpushed
      constructor
      · intro n
        cases n with
        | zero => exact upcoming_unscan_zero hlast
        | succ n =>
            rw [upcoming_unscan_succ hpushed hlast n, h.upcoming_eq n]
            exact congrArg (TokenCursor.tokenAt _) (Nat.add_right_comm k 1 n)
      · intro hnot
        rw [TokenBuffer.unscan, hlast] at hnot
        cases hnot

theorem At.step (h : At b c) (action : Action)
    (hallowed : action = .unscan -> b.pushedBack = false) :
    (act b action).1 = (c.act action).1 ∧ At (act b action).2 (c.act action).2 := by
  cases action with
  | scan => exact ⟨congrArg some h.scan_eq, h.scan⟩
  | scanWord =>
      have hscan : (TokenSource.scan b).1 = c.tokenAt c.index := h.scan_eq
      by_cases hblank : (c.tokenAt c.index).kind = .blank
      · have hword : TokenSource.scanWord b = b.scan.2.scan := by
          rw [TokenSource.scanWord, hscan, if_pos hblank]
          rfl
        rw [TokenSource.act, TokenCursor.act, hword, TokenCursor.blanks, if_pos hblank]
        exact ⟨congrArg some h.scan.scan_eq, h.scan.scan⟩
      · have hword : TokenSource.scanWord b = b.scan := by
          rw [TokenSource.scanWord, hscan, if_neg hblank]
          rfl
        rw [TokenSource.act, TokenCursor.act, hword, TokenCursor.blanks, if_neg hblank]
        exact ⟨congrArg some h.scan_eq, h.scan⟩
  | unscan => exact ⟨rfl, h.unscan (hallowed rfl)⟩

/-!
## Actions in a row
-/

theorem pushedBack_act {action : Action} (h : action ≠ .unscan) (b : TokenBuffer) :
    (act b action).2.pushedBack = false := by
  cases action with
  | scan => exact pushedBack_scan b
  | scanWord =>
      show (TokenSource.scanWord b).2.pushedBack = false
      unfold TokenSource.scanWord
      dsimp only
      split
      · exact pushedBack_scan _
      · exact pushedBack_scan b
  | unscan => exact absurd rfl h

/-- A buffer and the place that it is at yield the same tokens. -/
theorem At.yieldsOf_eq (h : At b c) {actions : List Action} (halternate : Alternate actions)
    (hallowed : actions.head? = some .unscan -> b.pushedBack = false) :
    yieldsOf act actions b = yieldsOf TokenCursor.act actions c := by
  induction actions generalizing b c with
  | nil => rfl
  | cons action actions ih =>
      rcases List.isChain_cons.mp halternate with ⟨hnext, hrest⟩
      rcases h.step action (fun haction => hallowed (congrArg some haction)) with
        ⟨hyield, hbehind⟩
      rw [yieldsOf, yieldsOf, hyield, ih hbehind hrest]
      intro hhead
      apply pushedBack_act
      intro haction
      exact hnext _ hhead haction rfl

/-!
## Tokens taken back
-/

theorem scan_unscan_act {action : Action} (h : action ≠ .unscan) (b : TokenBuffer) :
    (act b action).1 = some (act b action).2.unscan.scan.1 := by
  cases action with
  | scan => exact congrArg (fun r => some r.1) (scan_unscan_scan b).symm
  | scanWord =>
      show some (TokenSource.scanWord b).1 = some (TokenSource.scanWord b).2.unscan.scan.1
      unfold TokenSource.scanWord
      dsimp only
      split
      · exact congrArg (fun r => some r.1) (scan_unscan_scan b.scan.2).symm
      · exact congrArg (fun r => some r.1) (scan_unscan_scan b).symm
  | unscan => exact absurd rfl h

theorem getElem?_yieldsOf {actions : List Action} (halternate : Alternate actions) {n : Nat}
    (hback : actions[n + 1]? = some .unscan) (hscan : actions[n + 2]? = some .scan)
    (b : TokenBuffer) :
    (yieldsOf act actions b)[n + 2]? = (yieldsOf act actions b)[n]? := by
  induction n generalizing actions b with
  | zero =>
      rcases actions with _ | ⟨read, _ | ⟨back, _ | ⟨again, actions⟩⟩⟩
      · cases hback
      · cases hback
      · cases hscan
      · cases hback
        cases hscan
        have hread : read ≠ .unscan := fun h => halternate.rel h rfl
        exact congrArg some (scan_unscan_act hread b).symm
  | succ n ih =>
      cases actions with
      | nil => cases hback
      | cons action actions => exact ih halternate.of_cons hback hscan (act b action).2

/-!
## Texts
-/

/-- Over every text, actions among which no two take a token back in a row yield what
they yield at a place among the tokens of the text, from the first place on. A word that
is read is never blank, a token that is taken back is the one that is yielded again, and
before anything is read nothing is taken back. -/
theorem yieldsOf_eq_of_alternate (cs : List Char) {actions : List Action}
    (h : Alternate actions) :
    let yields := yieldsOf act actions (ofChars cs)
    yields = yieldsOf TokenCursor.act actions (TokenCursor.ofChars cs) ∧
      List.Forall₂ (fun action yield =>
        action = .scanWord -> exists t, yield = some t ∧ t.kind ≠ .blank) actions yields ∧
      (forall n, actions[n + 1]? = some .unscan -> actions[n + 2]? = some .scan ->
        yields[n + 2]? = yields[n]?) ∧
      (ofChars cs).unscan = ofChars cs := by
  intro yields
  have hyields : yields = yieldsOf TokenCursor.act actions (TokenCursor.ofChars cs) :=
    (at_ofChars cs).yieldsOf_eq h fun _ => rfl
  refine ⟨hyields, ?_, ?_, rfl⟩
  · rw [hyields]
    exact (TokenCursor.blanksApart_ofChars cs).forall₂_yieldsOf actions
  · intro n hback hscan
    exact getElem?_yieldsOf h hback hscan (ofChars cs)

/-- Two tokens are taken back, one of them behind a blank that was passed over and one at
the end of the input. -/
theorem yieldsOf_eq_of_alternate_of_text :
    let cs := "1 +".toList
    let actions : List Action :=
      [.unscan, .scan, .scanWord, .unscan, .scan, .scanWord, .unscan, .scan, .scan]
    let one : Token := ⟨.literal .integer, ⟨0, 0, 0⟩, ['1']⟩
    let plus : Token := ⟨.binary .add, ⟨0, 2, 2⟩, ['+']⟩
    let last : Token := ⟨.endOfInput, ⟨0, 3, 3⟩, []⟩
    Alternate actions ∧
      yieldsOf act actions (ofChars cs) =
        yieldsOf TokenCursor.act actions (TokenCursor.ofChars cs) ∧
      yieldsOf act actions (ofChars cs) =
        [none, some one, some plus, none, some plus, some last, none, some last, some last] := by
  intro cs actions one plus last
  have halternate : Alternate actions := by decide
  exact ⟨halternate, (yieldsOf_eq_of_alternate cs halternate).left, by decide +kernel⟩

end TokenBuffer
end Reckon
