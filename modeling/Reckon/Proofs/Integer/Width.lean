import Mathlib.Algebra.Ring.Int.Defs
import Mathlib.Algebra.Ring.Nat
import Reckon.Integer.Bits

/-!
# The width of integers

How many bits the magnitude of a sum, a product, a power or a bitwise combination
can have. A width is an upper bound on a magnitude by a power of two, and all that
follows is told by such bounds. Bitwise operations are looked at in two's
complement instead, where a negative number stands for one less than its magnitude.
-/

namespace Reckon
namespace Integer

theorem bitLength_le_iff {n : Int} {k : Nat} : bitLength n ≤ k <-> n.natAbs < 2 ^ k := by
  unfold bitLength
  by_cases h : n = 0
  · rw [if_pos h, h]
    exact iff_of_true (Nat.zero_le k) (Nat.two_pow_pos k)
  · rw [if_neg h, Nat.succ_le_iff]
    exact Nat.log2_lt (Int.natAbs_ne_zero.mpr h)

theorem natAbs_lt_two_pow_bitLength (n : Int) : n.natAbs < 2 ^ bitLength n :=
  bitLength_le_iff.mp (Nat.le_refl _)

theorem bitLength_le_bitLength {m n : Int} (h : m.natAbs ≤ n.natAbs) :
    bitLength m ≤ bitLength n :=
  bitLength_le_iff.mpr (Nat.lt_of_le_of_lt h (natAbs_lt_two_pow_bitLength n))

/-!
## Arithmetic
-/

theorem bitLength_add_le {a b : Int} {k : Nat} (ha : bitLength a ≤ k) (hb : bitLength b ≤ k) :
    bitLength (a + b) ≤ k + 1 := by
  rw [bitLength_le_iff] at ha hb ⊢
  rw [Nat.pow_succ]
  omega

theorem bitLength_sub_le {a b : Int} {k : Nat} (ha : bitLength a ≤ k) (hb : bitLength b ≤ k) :
    bitLength (a - b) ≤ k + 1 := by
  rw [bitLength_le_iff] at ha hb ⊢
  rw [Nat.pow_succ]
  omega

theorem bitLength_mul_le (a b : Int) : bitLength (a * b) ≤ bitLength a + bitLength b := by
  rw [bitLength_le_iff, Int.natAbs_mul, Nat.pow_add]
  exact Nat.mul_lt_mul'' (natAbs_lt_two_pow_bitLength a) (natAbs_lt_two_pow_bitLength b)

theorem bitLength_tdiv_le (a b : Int) : bitLength (a.tdiv b) ≤ bitLength a := by
  apply bitLength_le_bitLength
  rw [Int.natAbs_tdiv]
  exact Nat.div_le_self _ _

theorem natAbs_pow (a : Int) (n : Nat) : (Int.pow a n).natAbs = a.natAbs ^ n :=
  Int.natAbs_pow a n

theorem bitLength_pow_le (a : Int) {n : Nat} (h : n ≠ 0) :
    bitLength (Int.pow a n) ≤ bitLength a * n := by
  rw [bitLength_le_iff, natAbs_pow, Nat.pow_mul]
  exact Nat.pow_lt_pow_left (natAbs_lt_two_pow_bitLength a) h

theorem bitLength_pow_le_one {a : Int} (h : bitLength a ≤ 1) (n : Nat) :
    bitLength (Int.pow a n) ≤ 1 := by
  rw [bitLength_le_iff] at h ⊢
  rw [natAbs_pow]
  have hone : a.natAbs ^ n ≤ 1 ^ n := Nat.pow_le_pow_left (Nat.le_of_lt_succ h) n
  rw [Nat.one_pow] at hone
  exact Nat.lt_succ_of_le hone

/-!
## Shifts
-/

theorem bitLength_shiftLeft_le (a : Int) (count : Nat) :
    bitLength (shiftLeft a count) ≤ bitLength a + count := by
  have habs : (shiftLeft a count).natAbs = a.natAbs * 2 ^ count := Int.natAbs_mul a _
  rw [bitLength_le_iff, habs, Nat.pow_add]
  exact Nat.mul_lt_mul_of_pos_right (natAbs_lt_two_pow_bitLength a) (Nat.two_pow_pos count)

theorem shiftLeft_eq (a : Int) (count : Nat) : shiftLeft a count = a * 2 ^ count := rfl

theorem shiftLeft_zero_left (count : Nat) : shiftLeft 0 count = 0 :=
  Int.zero_mul _

theorem bitLength_shiftRight_le (a : Int) (count : Nat) :
    bitLength (shiftRight a count) ≤ bitLength a := by
  -- Rounding down takes a negative number no further from zero than it is.
  apply bitLength_le_bitLength
  rw [shiftRight, Int.shiftRight_eq_div_pow]
  exact Int.natAbs_ediv_le_natAbs a _

/-!
## How wide at least

A number that is not zero has a first bit, and first bits multiply to a bit that is
not lost.
-/

theorem lt_bitLength_iff {n : Int} {k : Nat} : k < bitLength n <-> 2 ^ k ≤ n.natAbs := by
  rw [← Nat.not_le, bitLength_le_iff, Nat.not_lt]

theorem bitLength_pos {n : Int} (h : n ≠ 0) : 0 < bitLength n := by
  rw [lt_bitLength_iff, Nat.pow_zero]
  exact Nat.one_le_iff_ne_zero.mpr (Int.natAbs_ne_zero.mpr h)

theorem two_pow_le_natAbs {n : Int} (h : n ≠ 0) : 2 ^ (bitLength n - 1) ≤ n.natAbs :=
  lt_bitLength_iff.mp (Nat.sub_one_lt_of_lt (bitLength_pos h))

theorem le_bitLength_mul {a b : Int} (ha : a ≠ 0) (hb : b ≠ 0) :
    bitLength a + bitLength b - 1 ≤ bitLength (a * b) := by
  have hbits : bitLength a - 1 + (bitLength b - 1) < bitLength (a * b) := by
    rw [lt_bitLength_iff, Int.natAbs_mul, Nat.pow_add]
    exact Nat.mul_le_mul (two_pow_le_natAbs ha) (two_pow_le_natAbs hb)
  have hpos := bitLength_pos ha
  omega

theorem lt_bitLength_pow {a : Int} (h : a ≠ 0) (n : Nat) :
    (bitLength a - 1) * n < bitLength (Int.pow a n) := by
  rw [lt_bitLength_iff, natAbs_pow, Nat.pow_mul]
  exact Nat.pow_le_pow_left (two_pow_le_natAbs h) n

theorem le_bitLength_shiftLeft {a : Int} (h : a ≠ 0) (count : Nat) :
    bitLength a + count ≤ bitLength (shiftLeft a count) := by
  have hbits : bitLength a - 1 + count < bitLength (shiftLeft a count) := by
    have habs : (shiftLeft a count).natAbs = a.natAbs * 2 ^ count := Int.natAbs_mul a _
    rw [lt_bitLength_iff, habs, Nat.pow_add]
    exact Nat.mul_le_mul_right _ (two_pow_le_natAbs h)
  have hpos := bitLength_pos h
  omega

/-!
## Bitwise operations

A number fits in a word of `k` places and a sign if the places behind them repeat
its sign. The operations work on each place alone and so keep to such words.
-/

def FitsWord (k : Nat) : Int -> Prop
  | .ofNat m => m < 2 ^ k
  | .negSucc m => m < 2 ^ k

theorem fitsWord_of_bitLength_le {n : Int} {k : Nat} (h : bitLength n ≤ k) : FitsWord k n := by
  rw [bitLength_le_iff] at h
  cases n with
  | ofNat m => exact h
  | negSucc m => exact Nat.lt_of_succ_lt h

theorem FitsWord.bitLength_le {n : Int} {k : Nat} (h : FitsWord k n) :
    bitLength n ≤ k + 1 := by
  -- The least number of a word has a magnitude that takes one more bit.
  have hlt : 2 ^ k < 2 ^ (k + 1) := Nat.pow_lt_pow_succ (by decide)
  rw [bitLength_le_iff]
  cases n with
  | ofNat m => exact Nat.lt_trans h hlt
  | negSucc m => exact Nat.lt_of_le_of_lt h hlt

theorem without_lt_two_pow {m k : Nat} (n : Nat) (h : m < 2 ^ k) : without m n < 2 ^ k := by
  have hand : m &&& n < 2 ^ k := by
    rw [Nat.and_comm]
    exact Nat.and_lt_two_pow n h
  exact Nat.xor_lt_two_pow h hand

theorem FitsWord.land {a b : Int} {k : Nat} (ha : FitsWord k a) (hb : FitsWord k b) :
    FitsWord k (land a b) := by
  cases a with
  | ofNat m =>
      cases b with
      | ofNat n => exact Nat.and_lt_two_pow m hb
      | negSucc n => exact without_lt_two_pow n ha
  | negSucc m =>
      cases b with
      | ofNat n => exact without_lt_two_pow m hb
      | negSucc n => exact Nat.or_lt_two_pow ha hb

theorem FitsWord.lor {a b : Int} {k : Nat} (ha : FitsWord k a) (hb : FitsWord k b) :
    FitsWord k (lor a b) := by
  cases a with
  | ofNat m =>
      cases b with
      | ofNat n => exact Nat.or_lt_two_pow ha hb
      | negSucc n => exact without_lt_two_pow m hb
  | negSucc m =>
      cases b with
      | ofNat n => exact without_lt_two_pow n ha
      | negSucc n => exact Nat.and_lt_two_pow m hb

theorem FitsWord.lxor {a b : Int} {k : Nat} (ha : FitsWord k a) (hb : FitsWord k b) :
    FitsWord k (lxor a b) := by
  cases a with
  | ofNat m =>
      cases b with
      | ofNat n => exact Nat.xor_lt_two_pow ha hb
      | negSucc n => exact Nat.xor_lt_two_pow ha hb
  | negSucc m =>
      cases b with
      | ofNat n => exact Nat.xor_lt_two_pow ha hb
      | negSucc n => exact Nat.xor_lt_two_pow ha hb

end Integer
end Reckon
