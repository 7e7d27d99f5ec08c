/-!
# Bits of integers

Integers as two's complement words of unbounded width: a negative number has
ones in all places above some point. The bitwise operations are determined by
what they do to each bit, which `bit_land`, `bit_lor` and `bit_lxor` state.
-/

namespace Reckon
namespace Integer

/-- The number of bits in the magnitude of an integer. Zero has none. -/
def bitLength (n : Int) : Nat :=
  if n = 0 then 0 else n.natAbs.log2 + 1

/-- The bit of an integer at a place, in two's complement of unbounded width. -/
def bit : Int -> Nat -> Bool
  | .ofNat m, i => m.testBit i
  | .negSucc m, i => !m.testBit i

/-- The bits of `m` that are not bits of `n`. -/
def without (m n : Nat) : Nat :=
  m ^^^ (m &&& n)

def land : Int -> Int -> Int
  | .ofNat m, .ofNat n => .ofNat (m &&& n)
  | .ofNat m, .negSucc n => .ofNat (without m n)
  | .negSucc m, .ofNat n => .ofNat (without n m)
  | .negSucc m, .negSucc n => .negSucc (m ||| n)

def lor : Int -> Int -> Int
  | .ofNat m, .ofNat n => .ofNat (m ||| n)
  | .ofNat m, .negSucc n => .negSucc (without n m)
  | .negSucc m, .ofNat n => .negSucc (without m n)
  | .negSucc m, .negSucc n => .negSucc (m &&& n)

def lxor : Int -> Int -> Int
  | .ofNat m, .ofNat n => .ofNat (m ^^^ n)
  | .ofNat m, .negSucc n => .negSucc (m ^^^ n)
  | .negSucc m, .ofNat n => .negSucc (m ^^^ n)
  | .negSucc m, .negSucc n => .ofNat (m ^^^ n)

def shiftLeft (n : Int) (count : Nat) : Int :=
  n * Nat.pow 2 count

/-- Shifting right divides by a power of two, rounding down. -/
def shiftRight (n : Int) (count : Nat) : Int :=
  n >>> count

theorem testBit_without (m n i : Nat) :
    (without m n).testBit i = (m.testBit i && !n.testBit i) := by
  simp only [without, Nat.testBit_xor, Nat.testBit_and]
  cases m.testBit i <;> cases n.testBit i <;> rfl

theorem bit_land (a b : Int) (i : Nat) :
    bit (land a b) i = (bit a i && bit b i) := by
  cases a <;> cases b <;>
    simp [land, bit, testBit_without, Nat.testBit_and, Nat.testBit_or, Bool.and_comm]

theorem bit_lor (a b : Int) (i : Nat) :
    bit (lor a b) i = (bit a i || bit b i) := by
  cases a <;> cases b <;>
    simp [lor, bit, testBit_without, Nat.testBit_and, Nat.testBit_or, Bool.or_comm]

theorem bit_lxor (a b : Int) (i : Nat) :
    bit (lxor a b) i = (bit a i ^^ bit b i) := by
  cases a <;> cases b <;> simp [lxor, bit, Nat.testBit_xor]

end Integer
end Reckon
