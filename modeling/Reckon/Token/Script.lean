import Reckon.Token.Source

/-!
# A given sequence of tokens

A script yields the tokens of a list, whatever they are, and the end of input
after them. It can be wound back step by step.
-/

namespace Reckon

/-- A sequence of tokens and the number of tokens that have been read. -/
structure TokenScript where
  tokens : List Token
  index : Nat
  deriving DecidableEq, Repr

namespace TokenScript

/-- The script of the given kinds and lexemes. Every token counts as one column
and one byte. -/
def ofPairs (pairs : List (TokenKind × List Char)) : TokenScript :=
  ⟨pairs.zipIdx.map fun entry => ⟨entry.1.1, ⟨0, entry.2, entry.2⟩, entry.1.2⟩, 0⟩

def endToken (s : TokenScript) : Token :=
  ⟨.endOfInput, ⟨0, s.tokens.length, s.tokens.length⟩, []⟩

def scan (s : TokenScript) : Token × TokenScript :=
  (s.tokens[s.index]?.getD s.endToken, { s with index := s.index + 1 })

def unscan (s : TokenScript) : TokenScript :=
  { s with index := s.index - 1 }

/-- The number of tokens of the script that are left. -/
def remaining (s : TokenScript) : Nat :=
  s.tokens.length - s.index

instance : TokenSource TokenScript where
  scan := scan
  unscan := unscan
  remaining := remaining
  remaining_scan_le s := by
    simp only [scan, remaining]
    omega
  remaining_scan_lt s := by
    intro h
    have hindex : s.index < s.tokens.length := by
      apply Nat.lt_of_not_le
      intro hle
      simp [scan, List.getElem?_eq_none hle, endToken] at h
    simp only [scan, remaining]
    omega
  remaining_unscan_le s := by
    simp [scan, unscan, remaining]

end TokenScript
end Reckon
