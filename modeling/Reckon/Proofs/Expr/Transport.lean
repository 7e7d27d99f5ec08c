import Mathlib.Data.List.Forall2
import Reckon.Proofs.Expr.Reading

/-!
# The same words elsewhere

Words are read in the same way wherever they stand and whatever ends them, as
long as something does: nothing behind the end is looked at, and the end itself
is left where it is. All that can differ is the place of an error, and the name
of the end if it comes where an operand should.
-/

namespace Reckon

/-- One word at two places. It is not the end of the input, nor, unless it is a
name, is it called so. -/
structure Token.SameWord (t u : Token) : Prop where
  kind_eq : u.kind = t.kind
  lexeme_eq : u.lexeme = t.lexeme
  kind_ne : t.kind ≠ .endOfInput
  describe_ne : t.kind ≠ .identifier -> t.describe ≠ TokenKind.endOfInput.name

theorem Token.SameWord.describe_eq {t u : Token} (h : t.SameWord u) :
    u.describe = t.describe := by
  simp only [describe, text, h.kind_eq, h.lexeme_eq]

theorem TokenKind.eq_step_of_stepOp? {kind : TokenKind} {op : StepOp}
    (h : kind.stepOp? = some op) : kind = .step op := by
  cases kind <;> cases h
  rfl

theorem TokenKind.eq_binary_of_binaryOp? {kind : TokenKind} {op : BinaryOp}
    (h : kind.binaryOp? = some op) : kind = .binary op := by
  cases kind <;> cases h
  rfl

namespace Parser

/-!
## Results that agree
-/

/-- Whether a fault says that the input ends too early. -/
def NamesEnd : SyntaxFault -> Prop
  | .unexpected found _ => found = TokenKind.endOfInput.name
  | _ => False

/-- Results that are the same but for the places of errors. If it is the end of the
words that is not expected, both results name it. -/
inductive Agree {α : Type} (e e' : Token) :
    Except SyntaxError α -> Except SyntaxError α -> Prop where
  | ok (a : α) : Agree e e' (.ok a) (.ok a)
  | error {x y : SyntaxError} :
      y.fault = x.fault -> ¬ NamesEnd x.fault -> Agree e e' (.error x) (.error y)
  | ended :
      Agree e e' (.error (.unexpected e expectedAfterOperator))
        (.error (.unexpected e' expectedAfterOperator))

theorem Agree.unexpected {α : Type} {e e' t u : Token} (h : t.SameWord u)
    (hkind : t.kind ≠ .identifier) (expected : List String) :
    Agree (α := α) e e' (.error (.unexpected t expected)) (.error (.unexpected u expected)) := by
  apply Agree.error
  · show SyntaxFault.unexpected u.describe expected = .unexpected t.describe expected
    rw [h.describe_eq]
  · exact h.describe_ne hkind

theorem Agree.notImplemented {α : Type} {e e' t u : Token} (h : t.SameWord u)
    (feature : Feature) :
    Agree (α := α) e e' (.error (.notImplemented feature t))
      (.error (.notImplemented feature u)) := by
  apply Agree.error
  · show SyntaxFault.notImplemented feature u.text = .notImplemented feature t.text
    rw [Token.text, Token.text, h.lexeme_eq]
  · exact not_false

theorem agree_readLiteral {e e' : Token} (form : LiteralForm) (cs : List Char)
    (position position' : Position) (span span' : Span) :
    Agree e e' (readLiteral form cs position span) (readLiteral form cs position' span') := by
  unfold readLiteral
  cases form.read cs with
  | ok v => exact .ok _
  | error fault => exact .error rfl not_false

theorem agree_readToken {e e' t u : Token} (h : t.SameWord u) :
    Agree e e' (readToken t) (readToken u) := by
  unfold readToken
  rw [h.kind_eq]
  split
  · rw [h.lexeme_eq]
    exact agree_readLiteral _ _ _ _ _ _
  · exact .ok _
  · exact .ok _
  · exact .notImplemented h _
  · exact .notImplemented h _
  · exact .notImplemented h _
  · exact .notImplemented h _
  · exact .notImplemented h _
  · next _ _ _ _ hname _ _ _ => exact .unexpected h hname _

/-!
## Results at the end of a statement

Nothing but the mark that ends a statement is read as its end, and nothing but
the end of the input as that.
-/

theorem readLiteral_eq_ok {form : LiteralForm} {cs : List Char} {position : Position}
    {span : Span} {start : Start} (h : readLiteral form cs position span = .ok start) :
    exists v, start = .operand v := by
  unfold readLiteral at h
  split at h
  · cases h
    exact ⟨_, rfl⟩
  · cases h

theorem kind_of_readToken_eq_endOfStatement {t : Token}
    (h : readToken t = .ok .endOfStatement) : t.kind = .semicolon := by
  unfold readToken at h
  split at h
  · rcases readLiteral_eq_ok h with ⟨v, hstart⟩
    cases hstart
  · next hkind => exact hkind
  all_goals cases h

theorem kind_of_readToken_eq_endOfInput {t : Token}
    (h : readToken t = .ok .endOfInput) : t.kind = .endOfInput := by
  unfold readToken at h
  split at h
  · rcases readLiteral_eq_ok h with ⟨v, hstart⟩
    cases hstart
  · cases h
  · next hkind => exact hkind
  all_goals cases h

theorem Starts.kind_of_endOfStatement {first : Token} {ws rest : List Token}
    (h : Starts (first :: ws) (.ok .endOfStatement) rest) : first.kind = .semicolon := by
  generalize hstart : (.ok .endOfStatement : Except SyntaxError Start) = start at h
  cases h with
  | token _ => exact kind_of_readToken_eq_endOfStatement hstart.symm
  | signed _ _ =>
      rcases readLiteral_eq_ok hstart.symm with ⟨v, hoperand⟩
      cases hoperand
  | unsigned _ _ => cases hstart

theorem Starts.kind_of_endOfInput {first : Token} {ws rest : List Token}
    (h : Starts (first :: ws) (.ok .endOfInput) rest) : first.kind = .endOfInput := by
  generalize hstart : (.ok .endOfInput : Except SyntaxError Start) = start at h
  cases h with
  | token _ => exact kind_of_readToken_eq_endOfInput hstart.symm
  | signed _ _ =>
      rcases readLiteral_eq_ok hstart.symm with ⟨v, hoperand⟩
      cases hoperand
  | unsigned _ _ => cases hstart

theorem Reads.kind_of_endOfStatement {limit room : Nat} {first : Token}
    {ws rest : List Token} (h : Reads limit room (first :: ws) (.ok .endOfStatement) rest) :
    first.kind = .semicolon := by
  cases h with
  | endOfStatement hstart => exact hstart.kind_of_endOfStatement

theorem Reads.kind_of_endOfInput {limit room : Nat} {first : Token}
    {ws rest : List Token} (h : Reads limit room (first :: ws) (.ok .endOfInput) rest) :
    first.kind = .endOfInput := by
  cases h with
  | endOfInput hstart => exact hstart.kind_of_endOfInput

/-!
## Reading up to an end
-/

theorem endsStatement_iff {kind : TokenKind} :
    endsStatement kind = true <-> kind = .semicolon ∨ kind = .endOfInput := by
  rw [endsStatement, Bool.or_eq_true, beq_iff_eq, beq_iff_eq]

theorem numberForm?_of_endsStatement {kind : TokenKind} (h : endsStatement kind = true) :
    numberForm? kind = none := by
  rcases endsStatement_iff.mp h with rfl | rfl <;> rfl

theorem stepOp?_of_endsStatement {kind : TokenKind} (h : endsStatement kind = true) :
    kind.stepOp? = none := by
  rcases endsStatement_iff.mp h with rfl | rfl <;> rfl

theorem binaryOp?_of_endsStatement {kind : TokenKind} (h : endsStatement kind = true) :
    kind.binaryOp? = none := by
  rcases endsStatement_iff.mp h with rfl | rfl <;> rfl

/-- A way of reading takes the same words to the same words and to results that
agree, before one end as before another and whatever is behind it. -/
structure Transports {α : Type} (e e' : Token)
    (R : List Token -> Except SyntaxError α -> List Token -> Prop)
    (ws ws' : List Token) (r r' : Except SyntaxError α) (rest rest' : List Token) : Prop where
  here : forall more, R (ws ++ e :: more) r (rest ++ e :: more)
  there : forall more, R (ws' ++ e' :: more) r' (rest' ++ e' :: more)
  sameWords : List.Forall₂ Token.SameWord rest rest'
  shorter : rest.length < ws.length
  agree : Agree e e' r r'

theorem exists_transports_starts {e e' : Token} (he : endsStatement e.kind = true)
    (he' : endsStatement e'.kind = true) {ws ws' : List Token}
    (h : List.Forall₂ Token.SameWord ws ws') (hne : ws ≠ []) :
    exists start start' rest rest', Transports e e' Starts ws ws' start start' rest rest' := by
  cases h with
  | nil => exact absurd rfl hne
  | @cons first first' behind behind' hfirst hbehind =>
      cases hsign : isSign first.kind with
      | false =>
          have hsign' : isSign first'.kind = false := by
            rw [hfirst.kind_eq, hsign]
          exact ⟨_, _, behind, behind', fun _ => .token hsign, fun _ => .token hsign',
            hbehind, Nat.lt_succ_self _, agree_readToken hfirst⟩
      | true =>
          have hsign' : isSign first'.kind = true := by
            rw [hfirst.kind_eq, hsign]
          have hname : first.kind ≠ .identifier := by
            intro hkind
            rw [hkind] at hsign
            cases hsign
          have hagree : Agree (α := Start) e e'
              (.error (.unexpected first expectedAfterSign))
              (.error (.unexpected first' expectedAfterSign)) :=
            .unexpected hfirst hname expectedAfterSign
          cases hbehind with
          | nil =>
              exact ⟨_, _, [], [], fun _ => .unsigned hsign (numberForm?_of_endsStatement he),
                fun _ => .unsigned hsign' (numberForm?_of_endsStatement he'), .nil,
                Nat.lt_succ_self _, hagree⟩
          | @cons number number' rest rest' hnumber hrest =>
              cases hform : numberForm? number.kind with
              | none =>
                  have hform' : numberForm? number'.kind = none := by
                    rw [hnumber.kind_eq, hform]
                  exact ⟨_, _, number :: rest, number' :: rest',
                    fun _ => .unsigned hsign hform, fun _ => .unsigned hsign' hform',
                    .cons hnumber hrest, Nat.lt_succ_self _, hagree⟩
              | some form =>
                  have hform' : numberForm? number'.kind = some form := by
                    rw [hnumber.kind_eq, hform]
                  refine ⟨_, _, rest, rest', fun _ => .signed hsign hform,
                    fun _ => .signed hsign' hform', hrest,
                    Nat.lt_succ_of_lt (Nat.lt_succ_self _), ?_⟩
                  rw [hfirst.lexeme_eq, hnumber.lexeme_eq]
                  exact agree_readLiteral _ _ _ _ _ _

/-!
An operand is read on both sides; what comes of it depends on the words behind.
-/

section Operands

variable {limit room : Nat} {e e' next next' : Token} {ws ws' rest rest' : List Token}
  {v : Value}

theorem Transports.operand_end (he : endsStatement e.kind = true)
    (he' : endsStatement e'.kind = true)
    (h : Transports e e' Starts ws ws' (.ok (.operand v)) (.ok (.operand v)) [] []) :
    Transports e e' (Reads limit (room + 1)) ws ws' (.ok (.expression (.literal v)))
      (.ok (.expression (.literal v))) [] [] where
  here more := .operand (h.here more) (stepOp?_of_endsStatement he)
    (binaryOp?_of_endsStatement he)
  there more := .operand (h.there more) (stepOp?_of_endsStatement he')
    (binaryOp?_of_endsStatement he')
  sameWords := .nil
  shorter := h.shorter
  agree := .ok _

theorem Transports.operand (hnext : next.SameWord next')
    (hstep : next.kind.stepOp? = none) (hbinary : next.kind.binaryOp? = none)
    (h : Transports e e' Starts ws ws' (.ok (.operand v)) (.ok (.operand v))
      (next :: rest) (next' :: rest')) :
    Transports e e' (Reads limit (room + 1)) ws ws' (.ok (.expression (.literal v)))
      (.ok (.expression (.literal v))) (next :: rest) (next' :: rest') where
  here more := .operand (h.here more) hstep hbinary
  there more := by
    rw [← hnext.kind_eq] at hstep hbinary
    exact .operand (h.there more) hstep hbinary
  sameWords := h.sameWords
  shorter := h.shorter
  agree := .ok _

theorem Transports.step (hnext : next.SameWord next') {op : StepOp}
    (hkind : next.kind = .step op)
    (h : Transports e e' Starts ws ws' (.ok (.operand v)) (.ok (.operand v))
      (next :: rest) (next' :: rest')) :
    Transports e e' (Reads limit (room + 1)) ws ws'
      (.ok (.expression (.step op (.literal v)))) (.ok (.expression (.step op (.literal v))))
      rest rest' where
  here more := .step (h.here more) hkind
  there more := .step (h.there more) (hnext.kind_eq.trans hkind)
  sameWords := by
    cases h.sameWords with
    | cons _ hrest => exact hrest
  shorter := Nat.lt_trans (Nat.lt_succ_self _) h.shorter
  agree := .ok _

theorem Transports.dangling_end (he : endsStatement e.kind = true)
    (he' : endsStatement e'.kind = true) (hnext : next.SameWord next') {op : BinaryOp}
    (hkind : next.kind = .binary op)
    (h : Transports e e' Starts ws ws' (.ok (.operand v)) (.ok (.operand v))
      [next] [next']) :
    Transports e e' (Reads limit (room + 1)) ws ws'
      (.error (.unexpected e expectedAfterOperator))
      (.error (.unexpected e' expectedAfterOperator)) [] [] where
  here more := .dangling (h.here more) hkind he
  there more := .dangling (h.there more) (hnext.kind_eq.trans hkind) he'
  sameWords := .nil
  shorter := Nat.lt_trans (Nat.lt_succ_self _) h.shorter
  agree := .ended

variable {ahead ahead' : Token}

theorem Transports.dangling (hnext : next.SameWord next') (hahead : ahead.SameWord ahead')
    {op : BinaryOp} (hkind : next.kind = .binary op)
    (hends : endsStatement ahead.kind = true)
    (h : Transports e e' Starts ws ws' (.ok (.operand v)) (.ok (.operand v))
      (next :: ahead :: rest) (next' :: ahead' :: rest')) :
    Transports e e' (Reads limit (room + 1)) ws ws'
      (.error (.unexpected ahead expectedAfterOperator))
      (.error (.unexpected ahead' expectedAfterOperator)) (ahead :: rest)
      (ahead' :: rest') where
  here more := .dangling (h.here more) hkind hends
  there more := by
    rw [← hahead.kind_eq] at hends
    exact .dangling (h.there more) (hnext.kind_eq.trans hkind) hends
  sameWords := by
    cases h.sameWords with
    | cons _ hrest => exact hrest
  shorter := Nat.lt_trans (Nat.lt_succ_self _) h.shorter
  agree := by
    apply Agree.unexpected hahead
    intro hname
    rw [hname] at hends
    cases hends

theorem Transports.exists_chain (hnext : next.SameWord next')
    (hahead : ahead.SameWord ahead') {op : BinaryOp} (hkind : next.kind = .binary op)
    (hends : endsStatement ahead.kind = false)
    (h : Transports e e' Starts ws ws' (.ok (.operand v)) (.ok (.operand v))
      (next :: ahead :: rest) (next' :: ahead' :: rest'))
    {r r' : Except SyntaxError Parsed} {after after' : List Token}
    (hrest : Transports e e' (Reads limit room) (ahead :: rest) (ahead' :: rest')
      r r' after after') :
    exists whole whole', Transports e e' (Reads limit (room + 1)) ws ws' whole whole'
      after after' := by
  have hkind' : next'.kind = .binary op := hnext.kind_eq.trans hkind
  have hends' : endsStatement ahead'.kind = false := by
    rw [hahead.kind_eq, hends]
  have hshorter : after.length < ws.length :=
    Nat.lt_trans hrest.shorter (Nat.lt_trans (Nat.lt_succ_self _) h.shorter)
  cases hrest.agree with
  | ok parsed =>
      cases parsed with
      | expression rhs =>
          exact ⟨_, _, fun more => .chain (h.here more) hkind hends (hrest.here more),
            fun more => .chain (h.there more) hkind' hends' (hrest.there more),
            hrest.sameWords, hshorter, .ok _⟩
      | endOfStatement =>
          rw [(hrest.here []).kind_of_endOfStatement] at hends
          cases hends
      | endOfInput => exact absurd (hrest.here []).kind_of_endOfInput hahead.kind_ne
  | error hfault hend =>
      exact ⟨_, _, fun more => .chainError (h.here more) hkind hends (hrest.here more),
        fun more => .chainError (h.there more) hkind' hends' (hrest.there more),
        hrest.sameWords, hshorter, .error hfault hend⟩
  | ended =>
      exact ⟨_, _, fun more => .chainError (h.here more) hkind hends (hrest.here more),
        fun more => .chainError (h.there more) hkind' hends' (hrest.there more),
        hrest.sameWords, hshorter, .ended⟩

end Operands

/-- Every attempt to read words comes to something before their end, and to the
same elsewhere. -/
theorem exists_transports_reads {limit : Nat} {e e' : Token}
    (he : endsStatement e.kind = true) (he' : endsStatement e'.kind = true) (room : Nat)
    {ws ws' : List Token} (h : List.Forall₂ Token.SameWord ws ws') (hne : ws ≠ []) :
    exists r r' rest rest', Transports e e' (Reads limit room) ws ws' r r' rest rest' := by
  induction room generalizing ws ws' with
  | zero =>
      cases h with
      | nil => exact absurd rfl hne
      | @cons first first' behind behind' _ hbehind =>
          exact ⟨_, _, behind, behind', fun _ => .tooDeep, fun _ => .tooDeep, hbehind,
            Nat.lt_succ_self _, .error rfl not_false⟩
  | succ room ih =>
      rcases exists_transports_starts he he' h hne with ⟨start, start', rest, rest', hstarts⟩
      cases hagree : hstarts.agree with
      | error hfault hend =>
          exact ⟨_, _, _, _, fun more => .startError (hstarts.here more),
            fun more => .startError (hstarts.there more), hstarts.sameWords,
            hstarts.shorter, .error hfault hend⟩
      | ended =>
          exact ⟨_, _, _, _, fun more => .startError (hstarts.here more),
            fun more => .startError (hstarts.there more), hstarts.sameWords,
            hstarts.shorter, .ended⟩
      | ok start =>
          cases start with
          | endOfStatement =>
              exact ⟨_, _, _, _, fun more => .endOfStatement (hstarts.here more),
                fun more => .endOfStatement (hstarts.there more), hstarts.sameWords,
                hstarts.shorter, .ok _⟩
          | endOfInput =>
              exact ⟨_, _, _, _, fun more => .endOfInput (hstarts.here more),
                fun more => .endOfInput (hstarts.there more), hstarts.sameWords,
                hstarts.shorter, .ok _⟩
          | operand v =>
              cases hwords : hstarts.sameWords with
              | nil => exact ⟨_, _, _, _, hstarts.operand_end he he'⟩
              | @cons next next' behind behind' hnext hbehind =>
                  cases hstep : next.kind.stepOp? with
                  | some op =>
                      exact ⟨_, _, _, _,
                        hstarts.step hnext (TokenKind.eq_step_of_stepOp? hstep)⟩
                  | none =>
                      cases hbinary : next.kind.binaryOp? with
                      | none => exact ⟨_, _, _, _, hstarts.operand hnext hstep hbinary⟩
                      | some op =>
                          have hkind := TokenKind.eq_binary_of_binaryOp? hbinary
                          cases hbehind with
                          | nil => exact ⟨_, _, _, _, hstarts.dangling_end he he' hnext hkind⟩
                          | @cons ahead ahead' rest rest' hahead hrest =>
                              cases hends : endsStatement ahead.kind with
                              | true =>
                                  exact ⟨_, _, _, _,
                                    hstarts.dangling hnext hahead hkind hends⟩
                              | false =>
                                  rcases ih (.cons hahead hrest) (List.cons_ne_nil _ _) with
                                    ⟨r, r', after, after', hchain⟩
                                  rcases hstarts.exists_chain hnext hahead hkind hends hchain
                                    with ⟨whole, whole', hwhole⟩
                                  exact ⟨whole, whole', after, after', hwhole⟩

end Parser
end Reckon
