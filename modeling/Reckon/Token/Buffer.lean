import Reckon.Token.Lexer
import Reckon.Token.Source

/-!
# A lexer that can take back a token

The buffer remembers the token that it yielded last, and whether that token is
to be yielded again.
-/

namespace Reckon

/-- A lexer with the token read last, which may have been taken back. -/
structure TokenBuffer where
  lexer : Lexer
  last : Option Token
  pushedBack : Bool
  deriving DecidableEq, Repr

namespace TokenBuffer

def ofChars (cs : List Char) : TokenBuffer := ⟨Lexer.ofChars cs, none, false⟩

def advance (b : TokenBuffer) : Token × TokenBuffer :=
  let next := b.lexer.next
  (next.1, ⟨next.2, some next.1, false⟩)

/-- The token that was taken back, or else the next one. -/
def scan (b : TokenBuffer) : Token × TokenBuffer :=
  match b.pushedBack, b.last with
  | true, some token => (token, { b with pushedBack := false })
  | _, _ => b.advance

/-- Takes back the token that was read last, if there is one. -/
def unscan (b : TokenBuffer) : TokenBuffer :=
  { b with pushedBack := b.last.isSome }

/-- Whether a token that is not the end of input has been taken back. -/
def holdsToken (b : TokenBuffer) : Bool :=
  b.pushedBack && b.last.any fun token => token.kind != .endOfInput

def remaining (b : TokenBuffer) : Nat :=
  b.lexer.rest.length + b.holdsToken.toNat

theorem remaining_advance (b : TokenBuffer) :
    b.advance.2.remaining = b.lexer.next.2.rest.length := by
  simp [advance, remaining, holdsToken]

theorem length_next_le (lexer : Lexer) :
    lexer.next.2.rest.length ≤ lexer.rest.length := by
  by_cases h : lexer.rest = []
  · simp [Lexer.next_kind_eq_endOfInput_of_nil h]
  · exact Nat.le_of_lt (Lexer.length_next_lt h)

theorem length_next_lt_of_kind {lexer : Lexer}
    (h : lexer.next.1.kind ≠ .endOfInput) :
    lexer.next.2.rest.length < lexer.rest.length := by
  apply Lexer.length_next_lt
  intro hnil
  simp [Lexer.next_kind_eq_endOfInput_of_nil hnil] at h

theorem remaining_advance_le (b : TokenBuffer) :
    b.advance.2.remaining ≤ b.remaining := by
  rw [remaining_advance]
  exact Nat.le_trans (length_next_le b.lexer) (Nat.le_add_right _ _)

theorem remaining_unscan_advance_le (b : TokenBuffer) :
    b.advance.2.unscan.remaining ≤ b.remaining := by
  by_cases h : b.lexer.next.1.kind = .endOfInput
  · have hle := length_next_le b.lexer
    simp [advance, unscan, remaining, holdsToken, h]
    omega
  · have hlt := length_next_lt_of_kind h
    have hone := Bool.toNat_le (b.advance.2.unscan.holdsToken)
    simp only [remaining]
    change b.lexer.next.2.rest.length + b.advance.2.unscan.holdsToken.toNat ≤ _
    omega

instance : TokenSource TokenBuffer where
  scan := scan
  unscan := unscan
  remaining := remaining
  remaining_scan_le b := by
    unfold scan
    split
    · simp [remaining, holdsToken]
    · exact remaining_advance_le b
  remaining_scan_lt b := by
    unfold scan
    split
    · next token hpushed hlast =>
        intro h
        have hkind : (token.kind != .endOfInput) = true := bne_iff_ne.mpr h
        simp [remaining, holdsToken, hpushed, hlast, hkind]
    · intro h
      rw [remaining_advance]
      exact Nat.lt_of_lt_of_le (length_next_lt_of_kind h) (Nat.le_add_right _ _)
  remaining_unscan_le b := by
    unfold scan
    split
    · next token hpushed hlast =>
        simp [unscan, remaining, holdsToken, hpushed, hlast]
    · exact remaining_unscan_advance_le b

end TokenBuffer
end Reckon
