import Reckon.Proofs.Expr.Lockstep
import Reckon.Proofs.Token.Cursor

/-!
# What a reader may take back

A buffer can take back one token, and only one that it has yielded. A reader keeps to
this whatever it is asked for and whatever came of it before: it takes a word back right
behind reading it. And as the word behind an operator is looked at and taken back, it is
the first one of the attempt that reads on from there, which for that reason meets no end.
-/

namespace Reckon

namespace TokenSource

/-!
## Blanks that are kept apart
-/

variable {σ : Type} [TokenSource σ]

/-- A source that does not yield two blank tokens in a row. -/
def BlanksApart (s : σ) : Prop :=
  forall n, (upcoming s n).kind = .blank -> (upcoming s (n + 1)).kind ≠ .blank

theorem BlanksApart.exists_scan {s : σ} (h : BlanksApart s) :
    exists r : σ, scanWord s = scan r ∧ (scan r).1.kind ≠ .blank := by
  by_cases hblank : (scan s).1.kind = .blank
  · refine ⟨(scan s).2, ?_, h 0 hblank⟩
    rw [scanWord, if_pos hblank]
  · refine ⟨s, ?_, hblank⟩
    rw [scanWord, if_neg hblank]

variable [Lawful σ]

theorem BlanksApart.scanWord_unscan {s : σ} (h : BlanksApart s) :
    (scanWord (unscan (scanWord s).2)).1 = (scanWord s).1 := by
  rcases h.exists_scan with ⟨r, hword, hkind⟩
  have hagain : (scan (unscan (scan r).2)).1 = (scan r).1 :=
    congrFun (Lawful.upcoming_unscan_scan r) 0
  rw [hword, scanWord, if_neg (hagain ▸ hkind), hagain]

end TokenSource

namespace Parser

open TokenSource

/-!
## Attempts that read on behind an operator
-/

section Attempts

variable {σ : Type} [TokenSource σ]

theorem lockstep_blanksApart [Lawful σ] :
    Lockstep fun s t : σ => s = t ∧ BlanksApart s :=
  lockstep_upcoming (P := fun f => forall n, (f n).kind = .blank -> (f (n + 1)).kind ≠ .blank)
    fun _ h n => h (n + 1)

/-- The attempts to read an expression that a call comes to: how much room each has and
the state that it starts from. -/
inductive Attempts (limit : Nat) : Call -> σ -> Nat -> σ -> Prop where
  | parse (s : σ) : Attempts limit .parse s (limit + 1) s
  | next (s : σ) : Attempts limit .next s (limit + 1) s
  /-- The next expression is looked for behind the end of a statement. -/
  | again {s behind s' : σ} {room : Nat} :
      Parser.parse limit s = (.ok .endOfStatement, behind) ->
      Attempts limit .next behind room s' -> Attempts limit .next s room s'
  /-- An attempt that meets an operator calls another. -/
  | onward {call : Call} {s s' behind : σ} {room : Nat} {v : Value} {op : BinaryOp}
      {ahead : Token} :
      Attempts limit call s (room + 1) s' -> readLink s' = (.operator v op ahead, behind) ->
      Attempts limit call s room behind

/-- The end of a statement or of the input, in the place of an expression. -/
def IsEnd (result : Except SyntaxError Parsed) : Prop :=
  result = .ok .endOfStatement ∨ result = .ok .endOfInput

theorem not_isEnd_joinRest (v : Value) (op : BinaryOp) (ahead : Token)
    (result : Except SyntaxError Parsed) : ¬ IsEnd (joinRest v op ahead result) := by
  unfold joinRest
  rintro (h | h)
  all_goals split at h <;> cases h

theorem endsStatement_of_readStart {first : Token} {s : σ}
    (h : (readStart first s).1 = .ok .endOfStatement ∨
      (readStart first s).1 = .ok .endOfInput) : endsStatement first.kind = true := by
  unfold readStart at h
  split at h
  · exfalso
    unfold readSigned at h
    dsimp only at h
    split at h
    · rcases h with h | h
      all_goals
        rcases readLiteral_eq_ok h with ⟨v, hstart⟩
        cases hstart
    · rcases h with h | h <;> cases h
  · rcases h with h | h
    · exact endsStatement_iff.mpr (Or.inl (kind_of_readToken_eq_endOfStatement h))
    · exact endsStatement_iff.mpr (Or.inr (kind_of_readToken_eq_endOfInput h))

theorem endsStatement_of_readLink {s : σ} {result : Except SyntaxError Parsed}
    (hlink : (readLink s).1 = .last result) (h : IsEnd result) :
    endsStatement (scanWord s).1.kind = true := by
  apply endsStatement_of_readStart (s := (scanWord s).2)
  unfold readLink at hlink
  dsimp only at hlink
  generalize readStart (scanWord s).1 (scanWord s).2 = start at hlink ⊢
  rcases start with ⟨result, behind⟩
  cases result with
  | error e =>
      cases hlink
      rcases h with h | h <;> cases h
  | ok start =>
      cases start with
      | endOfStatement => exact Or.inl rfl
      | endOfInput => exact Or.inr rfl
      | operand v =>
          exfalso
          dsimp only at hlink
          cases hkind : (scanWord behind).1.kind
          case binary op =>
            simp only [hkind] at hlink
            split at hlink
            · cases hlink
              rcases h with h | h <;> cases h
            · cases hlink
          all_goals
            simp only [hkind] at hlink
            cases hlink
            rcases h with h | h <;> cases h

theorem not_isEnd_parseWithin {s : σ} (h : endsStatement (scanWord s).1.kind = false)
    (limit room : Nat) : ¬ IsEnd (parseWithin limit room s).1 := by
  intro hend
  cases room with
  | zero =>
      rw [parseWithin] at hend
      rcases hend with hend | hend <;> cases hend
  | succ room =>
      rw [parseWithin_succ] at hend
      rcases hlink : readLink s with ⟨link, behind⟩
      rw [hlink] at hend
      cases link with
      | last result =>
          rw [endsStatement_of_readLink (congrArg Prod.fst hlink) hend] at h
          cases h
      | operator v op ahead => exact not_isEnd_joinRest _ _ _ _ hend

theorem ahead_of_readLink [Lawful σ] {s behind : σ} {v : Value} {op : BinaryOp}
    {ahead : Token} (hs : BlanksApart s) (h : readLink s = (.operator v op ahead, behind)) :
    (scanWord behind).1 = ahead ∧ endsStatement ahead.kind = false := by
  -- What is read behind an operator begins with the word that was looked at there, which ends
  -- nothing.
  have hfirst := (lockstep_blanksApart s s ⟨rfl, hs⟩).right.left
  have hstart := (lockstep_blanksApart.readStart hfirst (scanWord s).1).right
  unfold readLink at h
  dsimp only at h
  generalize readStart (scanWord s).1 (scanWord s).2 = start at h hstart
  rcases start with ⟨result, s⟩
  cases result with
  | error e => cases h
  | ok start =>
      cases start with
      | endOfStatement => cases h
      | endOfInput => cases h
      | operand v =>
          have hnext := (lockstep_blanksApart s s hstart).right.left
          dsimp only at h
          cases hkind : (scanWord s).1.kind
          case binary op =>
            simp only [hkind] at h
            split at h
            · cases h
            · next hends =>
                cases h
                exact ⟨hnext.right.scanWord_unscan, Bool.eq_false_iff.mpr hends⟩
          all_goals
            simp only [hkind] at h
            cases h

theorem Attempts.blanksApart [Lawful σ] {limit room : Nat} {call : Call} {s s' : σ}
    (h : Attempts limit call s room s') (hs : BlanksApart s) : BlanksApart s' := by
  induction h with
  | parse s => exact hs
  | next s => exact hs
  | again hparse _ ih =>
      have hbehind := (lockstep_blanksApart.parse limit ⟨rfl, hs⟩).right.right
      rw [hparse] at hbehind
      exact ih hbehind
  | onward _ hlink ih =>
      have hbehind := (lockstep_blanksApart.readLink ⟨rfl, ih hs⟩).right.right
      rw [hlink] at hbehind
      exact hbehind

end Attempts

end Parser

/-!
## Watching a buffer
-/

/-- A buffer with its states at which a token was taken back, the last one first. -/
structure WatchedBuffer where
  buffer : TokenBuffer
  takenBack : List TokenBuffer
  deriving DecidableEq, Repr

/-- Whether a buffer has yielded a token and has not taken it back. -/
def TokenBuffer.CanTakeBack (b : TokenBuffer) : Prop :=
  b.pushedBack = false ∧ b.last ≠ none

namespace WatchedBuffer

open TokenSource

def ofChars (cs : List Char) : WatchedBuffer :=
  ⟨.ofChars cs, []⟩

instance : TokenSource WatchedBuffer where
  scan w := (w.buffer.scan.1, { w with buffer := w.buffer.scan.2 })
  unscan w := ⟨w.buffer.unscan, w.buffer :: w.takenBack⟩
  remaining w := w.buffer.remaining
  remaining_scan_le w := remaining_scan_le w.buffer
  remaining_scan_lt w := remaining_scan_lt w.buffer
  remaining_unscan_le w := remaining_unscan_le w.buffer

theorem scanWord_eq (w : WatchedBuffer) :
    scanWord w = ((scanWord w.buffer).1, { w with buffer := (scanWord w.buffer).2 }) := by
  have hscan : (scan w).1 = (scan w.buffer).1 := rfl
  unfold scanWord
  dsimp only
  rw [hscan]
  split <;> rfl

theorem canTakeBack_scanWord (b : TokenBuffer) : (scanWord b).2.CanTakeBack := by
  have hscan : forall b : TokenBuffer, b.scan.2.CanTakeBack := by
    intro b
    refine ⟨TokenBuffer.pushedBack_scan b, ?_⟩
    rw [TokenBuffer.last_scan]
    exact Option.some_ne_none _
  unfold scanWord
  dsimp only
  split
  · exact hscan _
  · exact hscan b

/-- A watched buffer is read like the buffer, and sees nothing taken back that cannot be. -/
theorem lockstep_buffer :
    Parser.Lockstep fun (w : WatchedBuffer) b =>
      w.buffer = b ∧ forall x, x ∈ w.takenBack -> x.CanTakeBack := by
  rintro w _ ⟨rfl, h⟩
  rw [scanWord_eq]
  refine .mk _ ⟨⟨rfl, h⟩, rfl, ?_⟩
  intro x hx
  cases hx with
  | head => exact canTakeBack_scanWord w.buffer
  | tail _ hx => exact h x hx

end WatchedBuffer

namespace Parser

open TokenSource

/-- Whatever calls are made on a text, and whatever comes of them, no token is taken back
before one was read or while one is taken back already, and an attempt that is called
behind an operator comes to an expression or an error, but not to an end. -/
theorem takes_back_and_reads_on (cs : List Char) (limit : Nat) (calls : List Call) :
    let s := after limit calls (TokenBuffer.ofChars cs)
    let watched := after limit calls (WatchedBuffer.ofChars cs)
    (answers limit calls (WatchedBuffer.ofChars cs) =
        answers limit calls (TokenBuffer.ofChars cs) ∧ watched.buffer = s) ∧
      (forall b, b ∈ watched.takenBack -> b.pushedBack = false ∧ b.last ≠ none) ∧
      forall call room s' v op ahead behind, Attempts limit call s (room + 1) s' ->
        readLink s' = (.operator v op ahead, behind) ->
          (parseWithin limit (room + 1) s').1 =
              joinRest v op ahead (parseWithin limit room behind).1 ∧
            (parseWithin limit room behind).1 ≠ .ok .endOfStatement ∧
            (parseWithin limit room behind).1 ≠ .ok .endOfInput := by
  intro s watched
  rcases WatchedBuffer.lockstep_buffer.answers_eq_and_after limit calls
    (s := WatchedBuffer.ofChars cs) (t := TokenBuffer.ofChars cs)
    ⟨rfl, List.forall_mem_nil _⟩ with ⟨hanswers, hbuffer, htaken⟩
  refine ⟨⟨hanswers, hbuffer⟩, htaken, ?_⟩
  intro call room s' v op ahead behind hattempt hlink
  have hstart : BlanksApart (TokenBuffer.ofChars cs) := by
    intro n
    have hcall : forall k, upcoming (TokenBuffer.ofChars cs) k = (Lexer.ofChars cs).call k :=
      TokenBuffer.upcoming_eq_call (Lexer.ofChars cs) none
    rw [hcall, hcall]
    exact Lexer.kind_call_succ (Lexer.ofChars cs) n
  have hapart : BlanksApart s :=
    (lockstep_blanksApart.answers_eq_and_after limit calls ⟨rfl, hstart⟩).right.right
  rcases ahead_of_readLink (hattempt.blanksApart hapart) hlink with ⟨hfirst, hends⟩
  have hnot : ¬ IsEnd (parseWithin limit room behind).1 :=
    not_isEnd_parseWithin (hfirst ▸ hends) limit room
  refine ⟨?_, fun h => hnot (Or.inl h), fun h => hnot (Or.inr h)⟩
  rw [parseWithin_succ, hlink]

end Parser
end Reckon
