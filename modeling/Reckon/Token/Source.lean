import Reckon.Token.Basic

/-!
# Sources of tokens

A source yields tokens one by one and can take back the last of them. How many
more tokens it can yield before it is exhausted is bounded by a number, which
lets a reader of tokens go on until the end without further ado.
-/

namespace Reckon

/-- A state from which tokens can be read. -/
class TokenSource (σ : Type) where
  /-- The next token, and the state behind it. -/
  scan : σ -> Token × σ
  /-- The state before the token that was read last. -/
  unscan : σ -> σ
  /-- A bound on the number of tokens to come before the end of input. -/
  remaining : σ -> Nat
  remaining_scan_le (s : σ) : remaining (scan s).2 ≤ remaining s
  remaining_scan_lt (s : σ) :
    (scan s).1.kind ≠ .endOfInput -> remaining (scan s).2 < remaining s
  remaining_unscan_le (s : σ) : remaining (unscan (scan s).2) ≤ remaining s

namespace TokenSource

variable {σ : Type} [TokenSource σ]

/-- The next token, or the one behind it if the next is blank. -/
def scanWord (s : σ) : Token × σ :=
  let first := scan s
  if first.1.kind = .blank then scan first.2 else first

theorem remaining_scanWord_le (s : σ) :
    remaining (scanWord s).2 ≤ remaining s := by
  unfold scanWord
  dsimp only
  split
  · exact Nat.le_trans (remaining_scan_le _) (remaining_scan_le s)
  · exact remaining_scan_le s

theorem remaining_scanWord_lt {s : σ} (h : (scanWord s).1.kind ≠ .endOfInput) :
    remaining (scanWord s).2 < remaining s := by
  unfold scanWord at h ⊢
  dsimp only at h ⊢
  split at h
  · next hblank =>
      rw [if_pos hblank]
      exact Nat.lt_of_lt_of_le (remaining_scan_lt _ h) (remaining_scan_le s)
  · next hblank =>
      rw [if_neg hblank]
      exact remaining_scan_lt s h

theorem remaining_unscan_scanWord_le (s : σ) :
    remaining (unscan (scanWord s).2) ≤ remaining s := by
  unfold scanWord
  dsimp only
  split
  · exact Nat.le_trans (remaining_unscan_le _) (remaining_scan_le s)
  · exact remaining_unscan_le s

end TokenSource
end Reckon
