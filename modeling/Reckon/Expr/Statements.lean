import Reckon.Expr.Parser

/-!
# Reading statements

Every attempt to read an expression, unless it meets the end of the input, uses
up a token. So the loops over all statements of a text come to an end.
-/

namespace Reckon
namespace Parser

open TokenSource

variable {σ : Type} [TokenSource σ]

/-!
## Progress
-/

theorem remaining_readSigned_le (sign : Token) (s : σ) :
    remaining (readSigned sign s).2 ≤ remaining s := by
  unfold readSigned
  dsimp only
  split
  · exact remaining_scanWord_le s
  · exact remaining_unscan_scanWord_le s

theorem remaining_readStart_le (first : Token) (s : σ) :
    remaining (readStart first s).2 ≤ remaining s := by
  unfold readStart
  split
  · exact remaining_readSigned_le first s
  · exact Nat.le_refl _

theorem remaining_lookahead_le (s : σ) :
    remaining (unscan (scanWord (scanWord s).2).2) ≤ remaining s :=
  Nat.le_trans (remaining_unscan_scanWord_le _) (remaining_scanWord_le s)

theorem remaining_parseWithin_le (limit room : Nat) (s : σ) :
    remaining (parseWithin limit room s).2 ≤ remaining (scanWord s).2 := by
  induction room generalizing s with
  | zero => exact Nat.le_refl _
  | succ room ih =>
      have hstart := remaining_readStart_le (scanWord s).1 (scanWord s).2
      rw [parseWithin]
      dsimp only
      split
      · next h =>
          rw [h] at hstart
          exact hstart
      · next h =>
          rw [h] at hstart
          exact hstart
      · next h =>
          rw [h] at hstart
          exact hstart
      · next v after h =>
          rw [h] at hstart
          split
          · exact Nat.le_trans (remaining_scanWord_le after) hstart
          · have hahead := Nat.le_trans (remaining_lookahead_le after) hstart
            split
            · exact hahead
            · have hrest := Nat.le_trans (ih _)
                (Nat.le_trans (remaining_scanWord_le _) hahead)
              split
              · next hparse =>
                  rw [hparse] at hrest
                  exact hrest
              · next hparse =>
                  rw [hparse] at hrest
                  exact hrest
              · next hparse =>
                  rw [hparse] at hrest
                  exact hrest
          · exact Nat.le_trans (remaining_unscan_scanWord_le after) hstart

theorem parse_of_endOfInput {limit : Nat} {s : σ}
    (h : (scanWord s).1.kind = .endOfInput) :
    parse limit s = (.ok .endOfInput, (scanWord s).2) := by
  rw [parse, parseWithin]
  dsimp only
  simp [readStart, readToken, isSign, h]

/-- An attempt that does not meet the end of the input uses up a token. -/
theorem remaining_parse_lt {limit : Nat} {s : σ}
    (h : (parse limit s).1 ≠ .ok .endOfInput) :
    remaining (parse limit s).2 < remaining s := by
  apply Nat.lt_of_le_of_lt (remaining_parseWithin_le limit (limit + 1) s)
  apply remaining_scanWord_lt
  intro hkind
  rw [parse_of_endOfInput hkind] at h
  exact h rfl

theorem remaining_skipStatement_le (s : σ) :
    remaining (skipStatement s) ≤ remaining s := by
  induction h : remaining s using Nat.strongRecOn generalizing s with
  | ind n ih =>
      subst h
      rw [skipStatement]
      dsimp only
      split
      · exact remaining_scanWord_le s
      · split
        · exact remaining_unscan_scanWord_le s
        · next hkind =>
            have hlt := remaining_scanWord_lt hkind
            exact Nat.le_trans (ih _ hlt _ rfl) (Nat.le_of_lt hlt)

/-!
## Loops over statements
-/

/-- The next expression or error, passing over ends of statements, or nothing at
the end of the input. -/
def nextExpression (limit : Nat) (s : σ) : Option (Except SyntaxError Expr) × σ :=
  match h : parse limit s with
  | (.ok (.expression e), s) => (some (.ok e), s)
  | (.error e, s) => (some (.error e), s)
  | (.ok .endOfInput, s) => (none, s)
  | (.ok .endOfStatement, after) =>
      have : remaining after < remaining s := by
        have hlt : remaining (parse limit s).2 < remaining s :=
          remaining_parse_lt (by simp [h])
        rwa [h] at hlt
      nextExpression limit after
termination_by remaining s

/-- All expressions of the input. An error takes the place of the statement in
which it occurs. -/
def statements (limit : Nat) (s : σ) : List (Except SyntaxError Expr) :=
  match h : parse limit s with
  | (.ok .endOfInput, _) => []
  | (.ok .endOfStatement, after) =>
      have : remaining after < remaining s := by
        have hlt : remaining (parse limit s).2 < remaining s :=
          remaining_parse_lt (by simp [h])
        rwa [h] at hlt
      statements limit after
  | (.ok (.expression e), after) =>
      have : remaining after < remaining s := by
        have hlt : remaining (parse limit s).2 < remaining s :=
          remaining_parse_lt (by simp [h])
        rwa [h] at hlt
      .ok e :: statements limit after
  | (.error e, after) =>
      have : remaining (skipStatement after) < remaining s := by
        have hlt : remaining (parse limit s).2 < remaining s :=
          remaining_parse_lt (by simp [h])
        rw [h] at hlt
        exact Nat.lt_of_le_of_lt (remaining_skipStatement_le after) hlt
      .error e :: statements limit (skipStatement after)
termination_by remaining s

end Parser
end Reckon
