import Reckon.Proofs.Expr.ChainReading
import Reckon.Proofs.Expr.Depth
import Reckon.Proofs.Expr.Loop
import Reckon.Proofs.Value.Kinds

/-!
# How high the trees of chains are

Each operator of a chain makes its tree higher by one at most, wherever it is grafted,
and so does the step behind the last operand. An expression that is read under a limit
is therefore no higher than the limit and one more. It can be as high as that: a
ladder of additions that ends in a step is.
-/

namespace Reckon

namespace Expr

/-!
## Grafting
-/

theorem height_graft_literal_le (op : BinaryOp) (v : Value) (rhs : Expr) :
    (graft op (.literal v) rhs).height ≤ rhs.height + 1 := by
  induction rhs with
  | literal _ => exact Nat.le_refl _
  | step _ operand _ =>
      show max 0 (operand.height + 1) + 1 ≤ operand.height + 1 + 1
      rw [Nat.zero_max]
  | binary root left right ihl _ =>
      rw [graft]
      split
      · -- The root stays, and only its left side grows.
        rw [height, height]
        apply Nat.succ_le_succ
        apply Nat.max_le.mpr
        constructor
        · exact Nat.le_trans ihl (Nat.succ_le_succ (Nat.le_max_left _ _))
        · exact Nat.le_succ_of_le (Nat.le_max_right _ _)
      · show max 0 (binary root left right).height + 1 ≤ _
        rw [Nat.zero_max]

/-!
## Values and depth
-/

theorem value_ne_tooDeep (e : Expr) (limit : Nat) : e.value ≠ .error (.tooDeep limit) := by
  induction e with
  | literal v =>
      intro h
      cases h
  | step op operand ih =>
      rw [value]
      split
      · exact Value.applyStep_ne_tooDeep
      · next x hoperand =>
          rw [← hoperand]
          exact ih
  | binary op left right ihl ihr =>
      rw [value]
      split
      · next x hleft =>
          rw [← hleft]
          exact ihl
      · next l _ =>
          split
          · exact Value.apply_ne_tooDeep
          · next x hright =>
              rw [← hright]
              exact ihr

theorem evaluate_ne_tooDeep {evalDepth : Nat} {e : Expr} (h : e.height ≤ evalDepth)
    (limit : Nat) : e.evaluate evalDepth ≠ .error (.tooDeep limit) := by
  rw [evaluate, evaluateAt_eq_value (Nat.zero_add _ ▸ h)]
  exact value_ne_tooDeep e limit

end Expr

namespace Parser

open TokenSource

/-!
## Reading
-/

section Sources

variable {σ : Type} [TokenSource σ]

/-- A chain that there is room for has a tree that is no higher than the room. -/
theorem height_le_of_parseWithin {limit room : Nat} {s : σ} {e : Expr}
    (h : (parseWithin limit room s).1 = .ok (.expression e)) : e.height ≤ room := by
  induction room generalizing s e with
  | zero => cases h
  | succ room ih =>
      rw [parseWithin] at h
      dsimp only at h
      split at h
      · cases h
      · cases h
      · cases h
      · next v after _ =>
          split at h
          · cases h
            exact Nat.succ_le_succ (Nat.zero_le room)
          · split at h
            · cases h
            · split at h
              · next rhs _ hrest =>
                  cases h
                  have hrhs : rhs.height ≤ room := ih (congrArg Prod.fst hrest)
                  exact Nat.le_trans (Expr.height_graft_literal_le _ v rhs)
                    (Nat.succ_le_succ hrhs)
              · cases h
              · cases h
          · cases h
            exact Nat.zero_le _

theorem height_le_of_parse {limit : Nat} {s : σ} {e : Expr}
    (h : (parse limit s).1 = .ok (.expression e)) : e.height ≤ limit + 1 :=
  height_le_of_parseWithin h

end Sources

/-!
## Ladders
-/

/-- A ladder of additions, which ends in a step. -/
def ladder : Nat -> Expr
  | 0 => .step .increment (.literal (.integer 1))
  | n + 1 => .binary .add (.literal (.integer 1)) (ladder n)

def ladderChars : Nat -> List Char
  | 0 => ['1', '+', '+']
  | n + 1 => '1' :: '+' :: ladderChars n

theorem evaluateAt_ladder (n level : Nat) :
    (ladder n).evaluateAt (level + n) level = .error (.tooDeep (level + n)) := by
  induction n generalizing level with
  | zero =>
      have hoperand : (Expr.literal (.integer 1)).evaluateAt level (level + 1) =
          .error (.tooDeep level) := by
        rw [Expr.evaluateAt, if_pos (Nat.lt_succ_self level)]
      rw [ladder, Nat.add_zero, Expr.evaluateAt, if_neg (Nat.lt_irrefl level), hoperand]
  | succ n ih =>
      have hnext : level + (n + 1) = level + 1 + n := by
        rw [Nat.add_assoc, Nat.add_comm 1 n]
      have hlevel : ¬ level + 1 + n < level + 1 := Nat.not_lt.mpr (Nat.le_add_right _ _)
      have hleft : (Expr.literal (.integer 1)).evaluateAt (level + 1 + n) (level + 1) =
          .ok (.integer 1) := by
        rw [Expr.evaluateAt, if_neg hlevel]
      rw [hnext, ladder, Expr.evaluateAt, if_neg (fun h => hlevel (Nat.lt_succ_of_lt h)),
        hleft, ih]

theorem graft_ladder (n : Nat) (v : Value) :
    Expr.graft .add (.literal v) (ladder n) = .binary .add (.literal v) (ladder n) := by
  cases n with
  | zero => rfl
  | succ n => rfl

theorem kind_next_ladderChars (n : Nat) (position : Position) :
    (Lexer.mk (ladderChars n) position).next.1.kind = .literal .integer ∧
      (Lexer.mk (ladderChars n) position).next.1.lexeme = ['1'] := by
  cases n with
  | zero => exact ⟨rfl, rfl⟩
  | succ n => exact ⟨rfl, rfl⟩

theorem words_ladderChars (n : Nat) (position : Position) :
    exists one, (Lexer.mk (ladderChars n) position).words =
        one :: (Lexer.mk (ladderChars n) position).next.2.words ∧
      one.kind = .literal .integer ∧ one.lexeme = ['1'] := by
  rcases kind_next_ladderChars n position with ⟨hkind, hlexeme⟩
  refine ⟨_, ?_, hkind, hlexeme⟩
  apply Lexer.words_of_kind_ne_blank
  · cases n <;> exact List.cons_ne_nil _ _
  · rw [hkind]
    exact TokenKind.noConfusion

theorem reads_ladder (limit n : Nat) (position : Position) (rest : List Token) :
    Reads limit (n + 1) ((Lexer.mk (ladderChars n) position).words ++ rest)
      (.ok (.expression (ladder n))) rest := by
  induction n generalizing position with
  | zero =>
      rcases words_ladderChars 0 position with ⟨one, hwords, hkind, hlexeme⟩
      have hstep : (Lexer.mk (ladderChars 0) position).next.2.words =
          [⟨.step .increment, position.advance ['1'], ['+', '+']⟩] := by
        rw [Lexer.words_of_kind_ne_blank (List.cons_ne_nil _ _) TokenKind.noConfusion,
          Lexer.words, Lexer.tokens_of_rest_eq_nil rfl]
        rfl
      rw [hwords, hstep]
      have hone : OperandWords [one] (.integer 1) := .literal hkind (by rw [hlexeme]; rfl)
      exact .step (hone.starts _) rfl
  | succ n ih =>
      rcases words_ladderChars (n + 1) position with ⟨one, hwords, hkind, hlexeme⟩
      let plus : Lexer := (Lexer.mk (ladderChars (n + 1)) position).next.2
      have hmark : plus.next = (⟨.binary .add, plus.position, ['+']⟩,
          ⟨ladderChars n, plus.position.advance ['+']⟩) := by
        cases n with
        | zero => rfl
        | succ n => rfl
      have hbehind : plus.words = ⟨.binary .add, plus.position, ['+']⟩ ::
          (Lexer.mk (ladderChars n) (plus.position.advance ['+'])).words := by
        have hne : plus.next.1.kind ≠ .blank := by
          rw [hmark]
          exact TokenKind.noConfusion
        rw [Lexer.words_of_kind_ne_blank (List.cons_ne_nil _ _) hne, hmark]
      have hone : OperandWords [one] (.integer 1) := .literal hkind (by rw [hlexeme]; rfl)
      have hrest := ih (plus.position.advance ['+'])
      rcases words_ladderChars n (plus.position.advance ['+']) with ⟨ahead, hnext, hahead, -⟩
      rw [hnext] at hbehind hrest
      have hends : endsStatement ahead.kind = false := by
        rw [hahead]
        rfl
      rw [hwords, hbehind, ladder, ← graft_ladder]
      exact .chain (hone.starts _) rfl hends hrest

theorem parse_ladderChars (n : Nat) :
    (parse n (TokenBuffer.ofChars (ladderChars n))).1 = .ok (.expression (ladder n)) := by
  let last := (Lexer.ofChars (ladderChars n)).endToken
  have hreads : forall more, Reads n (n + 1)
      ((Lexer.ofChars (ladderChars n)).words ++ last :: more) (.ok (.expression (ladder n)))
      ([] ++ last :: more) :=
    fun more => reads_ladder n n Position.start (last :: more)
  rcases delivers_parse hreads (TokenBuffer.delivers_ofChars (ladderChars n)) with
    ⟨after, hparse, -⟩
  rw [hparse]

end Parser
end Reckon
