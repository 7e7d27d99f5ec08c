import Reckon.Text.Runs

/-!
# Positions in a text

A position counts lines, characters since the start of the line, and bytes since
the start of the text, all from zero. Moving over a text moves the position, and
moving over two texts in turn is moving over both together.
-/

namespace Reckon

structure Position where
  line : Nat
  column : Nat
  offset : Nat
  deriving DecidableEq, Repr

namespace Position

def start : Position := ⟨0, 0, 0⟩

def step (p : Position) (c : Char) : Position :=
  if c = '\n' then ⟨p.line + 1, 0, p.offset + c.utf8Size⟩
  else ⟨p.line, p.column + 1, p.offset + c.utf8Size⟩

def advance (p : Position) (cs : List Char) : Position :=
  cs.foldl step p

/-- The position as it is told to the reader, counting from one. -/
def describe (p : Position) : String :=
  s!"line {p.line + 1}, char {p.column + 1}"

theorem advance_append (p : Position) (a b : List Char) :
    p.advance (a ++ b) = (p.advance a).advance b := by
  simp [advance]

theorem offset_advance (p : Position) (cs : List Char) :
    (p.advance cs).offset = p.offset + Text.byteLength cs := by
  induction cs generalizing p with
  | nil => rfl
  | cons c cs ih =>
      have hstep : (p.step c).offset = p.offset + c.utf8Size := by
        unfold step
        split <;> rfl
      have hrest : (p.advance (c :: cs)).offset = ((p.step c).advance cs).offset := rfl
      rw [hrest, ih, hstep, Text.byteLength_cons, Nat.add_assoc]

end Position

structure Span where
  offset : Nat
  length : Nat
  deriving DecidableEq, Repr

end Reckon
