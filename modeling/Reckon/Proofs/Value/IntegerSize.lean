import Reckon.Proofs.Integer.Width
import Reckon.Value.Apply

/-!
# The size of integer results

An operator yields an integer only for an integer on its left. Products, powers
and shifts to the left are computed only if a size that is foreseen for them is
within the limit. For a shift this is the size of the result. A product can be one
bit wider than foreseen, and a power nearly twice as wide.
-/

namespace Reckon
namespace Value

open Integer (bitLength)

/-!
## Operators with integer results
-/

/-- What an operator makes of an integer on its left and another value, where that
is an integer again. -/
inductive YieldsInteger : BinaryOp -> Int -> Value -> Int -> Prop where
  | add {a b : Int} : YieldsInteger .add a (.integer b) (a + b)
  | sub {a b : Int} : YieldsInteger .sub a (.integer b) (a - b)
  | mul {a b : Int} :
      bitLength a + bitLength b - 1 ≤ maxIntegerBits ->
      YieldsInteger .mul a (.integer b) (a * b)
  | div {a b : Int} : b ≠ 0 -> YieldsInteger .div a (.integer b) (a.tdiv b)
  | pow {a exponent : Int} {r : Value} :
      wholeExponent .pow (.integer a) r = .ok exponent -> 0 ≤ exponent ->
      (bitLength a - 1) * exponent.natAbs ≤ maxIntegerBits ->
      YieldsInteger .pow a r (Int.pow a exponent.natAbs)
  | bitAnd {a b : Int} : YieldsInteger .bitAnd a (.integer b) (Integer.land a b)
  | bitOr {a b : Int} : YieldsInteger .bitOr a (.integer b) (Integer.lor a b)
  | bitXor {a b : Int} : YieldsInteger .bitXor a (.integer b) (Integer.lxor a b)
  | shiftLeft {a b : Int} :
      (a ≠ 0 -> bitLength a + b.natAbs ≤ maxIntegerBits) ->
      YieldsInteger .shiftLeft a (.integer b) (Integer.shiftLeft a b.natAbs)
  | shiftRight {a b : Int} :
      YieldsInteger .shiftRight a (.integer b) (Integer.shiftRight a b.natAbs)

theorem isTooWide_eq_false_iff {bits : Nat} :
    isTooWide bits = false <-> bits ≤ maxIntegerBits := by
  rw [isTooWide, decide_eq_false_iff_not, Nat.not_lt]

theorem decimalResult_ne_integer {d? : Option Decimal} {v : Int} :
    decimalResult d? ≠ .ok (.integer v) := by
  intro h
  cases d? <;> cases h

theorem quotientResult_ne_integer {d? : Option Decimal} {v : Int} :
    quotientResult d? ≠ .ok (.integer v) := by
  intro h
  cases d? <;> cases h

section Inversion

variable {op : BinaryOp} {l r : Value} {v : Int}

theorem yieldsInteger_of_add (h : add .add l r = .ok (.integer v)) :
    exists a, l = .integer a ∧ YieldsInteger .add a r v := by
  unfold add at h
  split at h
  · next a b =>
      cases h
      exact ⟨a, rfl, .add⟩
  · cases h
  · next a b =>
      cases hsum : a.add? b <;> rw [hsum] at h <;> cases h
  · split at h
    · exact absurd h decimalResult_ne_integer
    · cases h

theorem yieldsInteger_of_sub (h : sub .sub l r = .ok (.integer v)) :
    exists a, l = .integer a ∧ YieldsInteger .sub a r v := by
  unfold sub at h
  split at h
  · next a b =>
      cases h
      exact ⟨a, rfl, .sub⟩
  · next a b =>
      cases hdifference : a.sub? b <;> rw [hdifference] at h <;> cases h
  · split at h
    · exact absurd h decimalResult_ne_integer
    · cases h

theorem yieldsInteger_of_mul (h : mul .mul l r = .ok (.integer v)) :
    exists a, l = .integer a ∧ YieldsInteger .mul a r v := by
  unfold mul at h
  split at h
  · next a b =>
      split at h
      · cases h
      · next hwide =>
          cases h
          exact ⟨a, rfl, .mul (isTooWide_eq_false_iff.mp (Bool.eq_false_iff.mpr hwide))⟩
  · split at h
    · exact absurd h decimalResult_ne_integer
    · cases h

theorem yieldsInteger_of_div (h : div .div l r = .ok (.integer v)) :
    exists a, l = .integer a ∧ YieldsInteger .div a r v := by
  unfold div at h
  split at h
  · next a b =>
      split at h
      · cases h
      · next hzero =>
          cases h
          exact ⟨a, rfl, .div hzero⟩
  · split at h
    · unfold decimalQuotient at h
      split at h
      · exact absurd h quotientResult_ne_integer
      · cases h
    · cases h

theorem exists_of_pow_eq_ok {result : Value} (h : pow op l r = .ok result) :
    exists n, wholeExponent op l r = .ok n ∧ n.natAbs < exponentLimit ∧
      ((exists a, l = .integer a ∧ integerPower op a n = .ok result) ∨
        exists base, l = .decimal base ∧ decimalPower op base n = .ok result) := by
  unfold pow at h
  split at h
  · cases h
  · next n hread =>
      split at h
      · cases h
      · next hlimit =>
          refine ⟨n, hread, not_le.mp hlimit, ?_⟩
          split at h
          · next a => exact .inl ⟨a, rfl, h⟩
          · next base => exact .inr ⟨base, rfl, h⟩
          · cases h

theorem yieldsInteger_of_pow (h : pow .pow l r = .ok (.integer v)) :
    exists a, l = .integer a ∧ YieldsInteger .pow a r v := by
  rcases exists_of_pow_eq_ok h with ⟨n, hexponent, -, ⟨a, rfl, hpower⟩ | ⟨base, -, hpower⟩⟩
  · unfold integerPower at hpower
    dsimp only at hpower
    split at hpower
    · cases hpower
    · next hwide =>
        have hbits := isTooWide_eq_false_iff.mp (Bool.eq_false_iff.mpr hwide)
        split at hpower
        · exact absurd hpower quotientResult_ne_integer
        · next hnegative =>
            cases hpower
            exact ⟨a, rfl, .pow hexponent (Int.not_lt.mp hnegative) hbits⟩
  · unfold decimalPower at hpower
    dsimp only at hpower
    split at hpower
    · cases hpower
    · split at hpower
      · cases hpower
      · split at hpower
        · exact absurd hpower quotientResult_ne_integer
        · cases hpower

theorem shiftCount_eq_ok {count : Int} {n : Nat} (h : shiftCount op count = .ok n) :
    n = count.natAbs := by
  unfold shiftCount at h
  split at h
  · cases h
    rfl
  · cases h

theorem yieldsInteger_of_shiftLeft {a b : Int} {count : Nat}
    (hcount : shiftCount .shiftLeft b = .ok count)
    (h : shiftLeft .shiftLeft a count = .ok (.integer v)) :
    YieldsInteger .shiftLeft a (.integer b) v := by
  have habs := shiftCount_eq_ok hcount
  subst habs
  unfold shiftLeft at h
  split at h
  · cases h
  · next hwide =>
      cases h
      apply YieldsInteger.shiftLeft
      intro hzero
      rw [← isTooWide_eq_false_iff, Bool.eq_false_iff]
      intro hbits
      exact hwide ⟨hzero, hbits⟩

theorem yieldsInteger_of_bitwise (h : bitwise op l r = .ok (.integer v)) :
    exists a, l = .integer a ∧ YieldsInteger op a r v := by
  unfold bitwise at h
  split at h
  · next a b =>
      refine ⟨a, rfl, ?_⟩
      split at h
      · cases h
        exact .bitAnd
      · cases h
        exact .bitOr
      · cases h
        exact .bitXor
      · split at h
        · next count hcount => exact yieldsInteger_of_shiftLeft hcount h
        · cases h
      · split at h
        · next count hcount =>
            cases h
            rw [shiftCount_eq_ok hcount]
            exact .shiftRight
        · cases h
      · cases h
  · cases h

theorem logical_ne_integer : logical op l r ≠ .ok (.integer v) := by
  unfold logical
  intro h
  split at h <;> cases h

theorem comparison_ne_integer : comparison op l r ≠ .ok (.integer v) := by
  unfold comparison
  intro h
  split at h
  · cases h
  · split at h <;> cases h

/-- There is no other way to an integer. -/
theorem yieldsInteger_of_apply (h : apply op l r = .ok (.integer v)) :
    exists a, l = .integer a ∧ YieldsInteger op a r v := by
  unfold apply at h
  split at h
  · cases op with
    | add => exact yieldsInteger_of_add h
    | sub => exact yieldsInteger_of_sub h
    | mul => exact yieldsInteger_of_mul h
    | div => exact yieldsInteger_of_div h
    | pow => exact yieldsInteger_of_pow h
    | bitAnd | bitOr | bitXor | shiftLeft | shiftRight => exact yieldsInteger_of_bitwise h
    | and | or => exact absurd h logical_ne_integer
    | eq | ne | lt | le | gt | ge => exact absurd h comparison_ne_integer
  · cases h

end Inversion

/-!
## Sizes foreseen and real sizes
-/

theorem bitLength_shiftLeft_le_maxIntegerBits {a : Int} {count : Nat}
    (h : a ≠ 0 -> bitLength a + count ≤ maxIntegerBits) :
    bitLength (Integer.shiftLeft a count) ≤ maxIntegerBits := by
  by_cases hzero : a = 0
  · rw [hzero, Integer.shiftLeft_zero_left]
    exact Nat.zero_le _
  · exact Nat.le_trans (Integer.bitLength_shiftLeft_le a count) (h hzero)

theorem bitLength_mul_le_maxIntegerBits {a b : Int}
    (h : bitLength a + bitLength b - 1 ≤ maxIntegerBits) :
    bitLength (a * b) ≤ maxIntegerBits + 1 :=
  Nat.le_trans (Integer.bitLength_mul_le a b) (Nat.sub_le_iff_le_add.mp h)

theorem bitLength_pow_le_maxIntegerBits {a : Int} {n : Nat}
    (h : (bitLength a - 1) * n ≤ maxIntegerBits) :
    bitLength (Int.pow a n) ≤ maxIntegerBits + n ∧
      bitLength (Int.pow a n) ≤ 2 * maxIntegerBits := by
  -- What is foreseen for a power leaves out one bit for every factor.
  have hlimit : 1 ≤ maxIntegerBits := by decide
  by_cases hn : n = 0
  · have hone : bitLength (Int.pow a n) = 1 := by
      have hpow : Int.pow a 0 = 1 := Int.pow_zero a
      rw [hn, hpow]
      decide
    omega
  · by_cases hnarrow : bitLength a ≤ 1
    · have hone := Integer.bitLength_pow_le_one hnarrow n
      omega
    · have hpow := Integer.bitLength_pow_le a hn
      have hfactors : bitLength a * n = (bitLength a - 1) * n + n := by
        rw [← Nat.succ_mul]
        congr 1
        omega
      have hexponent : n ≤ (bitLength a - 1) * n :=
        Nat.le_mul_of_pos_left n (by omega)
      omega

/-- The result of a shift to the left is within the limit. A product is within it
unless the sizes of its factors add up to one bit more, which it may then have. The
exponent of a power is a bound on the bits that the power may have too many, and so
is the limit itself. -/
theorem bitLength_le_of_apply {op : BinaryOp} {l r v : Int}
    (h : apply op (.integer l) (.integer r) = .ok (.integer v)) :
    (op = .shiftLeft -> bitLength v ≤ maxIntegerBits) ∧
      (op = .mul -> bitLength v ≤ maxIntegerBits + 1 ∧
        (bitLength l + bitLength r ≤ maxIntegerBits -> bitLength v ≤ maxIntegerBits)) ∧
      (op = .pow -> bitLength v ≤ maxIntegerBits + r.natAbs ∧
        bitLength v ≤ 2 * maxIntegerBits ∧
        (r ≠ 0 -> bitLength l * r.natAbs ≤ maxIntegerBits ->
          bitLength v ≤ maxIntegerBits)) := by
  rcases yieldsInteger_of_apply h with ⟨a, ha, hyields⟩
  cases ha
  refine ⟨?_, ?_, ?_⟩
  · rintro rfl
    cases hyields with
    | shiftLeft hbits => exact bitLength_shiftLeft_le_maxIntegerBits hbits
  · rintro rfl
    cases hyields with
    | mul hbits =>
        constructor
        · exact bitLength_mul_le_maxIntegerBits hbits
        · intro hsum
          exact Nat.le_trans (Integer.bitLength_mul_le l r) hsum
  · rintro rfl
    cases hyields with
    | pow hexponent _ hbits =>
        cases hexponent
        rcases bitLength_pow_le_maxIntegerBits hbits with ⟨hadd, htwice⟩
        refine ⟨hadd, htwice, ?_⟩
        intro hzero hproduct
        have hpow := Integer.bitLength_pow_le l (Int.natAbs_ne_zero.mpr hzero)
        exact Nat.le_trans hpow hproduct

theorem bitLength_le_of_apply_pow :
    apply .pow (.integer (-3)) (.integer 5) = .ok (.integer (-243)) ∧
      bitLength (-243) ≤ maxIntegerBits := by
  have hpow : apply .pow (.integer (-3)) (.integer 5) = .ok (.integer (-243)) := rfl
  constructor
  · exact hpow
  · exact ((bitLength_le_of_apply hpow).right.right rfl).right.right (by decide) (by decide)

/-!
## Results that are refused

A product, a power or a shift to the left is refused just if the size that is foreseen
for it is beyond the limit.
-/

theorem apply_mul_eq (a b : Int) :
    apply .mul (.integer a) (.integer b) =
      if maxIntegerBits < bitLength a + bitLength b - 1 then .error (.overflow .mul)
      else .ok (.integer (a * b)) := by
  show mul .mul (.integer a) (.integer b) = _
  simp only [mul, isTooWide, decide_eq_true_eq]

theorem apply_pow_eq (a : Int) {n : Nat} (hn : n < exponentLimit) :
    apply .pow (.integer a) (.integer n) =
      if maxIntegerBits < (bitLength a - 1) * n then .error (.overflow .pow)
      else .ok (.integer (Int.pow a n)) := by
  have hlimit : ¬ exponentLimit ≤ n := Nat.not_le.mpr hn
  have hnonneg : ¬ (n : Int) < 0 := Int.not_lt.mpr (Int.natCast_nonneg n)
  show pow .pow (.integer a) (.integer n) = _
  simp only [pow, wholeExponent, integerPower, isTooWide, decide_eq_true_eq,
    Int.natAbs_natCast, if_neg hlimit, if_neg hnonneg]

theorem apply_shiftLeft_eq (a : Int) {count : Nat} (hcount : count ≤ maxShift) :
    apply .shiftLeft (.integer a) (.integer count) =
      if a ≠ 0 ∧ maxIntegerBits < bitLength a + count then .error (.overflow .shiftLeft)
      else .ok (.integer (Integer.shiftLeft a count)) := by
  have hrange : 0 ≤ (count : Int) ∧ (count : Int) ≤ maxShift :=
    ⟨Int.natCast_nonneg count, Int.ofNat_le.mpr hcount⟩
  have hshift : shiftCount .shiftLeft count = .ok count := by
    rw [shiftCount, if_pos hrange, Int.natAbs_natCast]
  show bitwise .shiftLeft (.integer a) (.integer count) = _
  simp only [bitwise, hshift, shiftLeft, isTooWide, decide_eq_true_eq]

/-!
The limit is passed: by every power of a number beyond one to the limit itself, and
by a product whose factors are both one half larger than a power of two.
-/

theorem apply_pow_natCast (a : Int) (n : Nat) (hn : n < exponentLimit)
    (h : (bitLength a - 1) * n ≤ maxIntegerBits) :
    apply .pow (.integer a) (.integer n) = .ok (.integer (Int.pow a n)) := by
  rw [apply_pow_eq a hn, if_neg (Nat.not_lt.mpr h)]

theorem apply_mul_integer {a b : Int} (h : bitLength a + bitLength b - 1 ≤ maxIntegerBits) :
    apply .mul (.integer a) (.integer b) = .ok (.integer (a * b)) := by
  rw [apply_mul_eq, if_neg (Nat.not_lt.mpr h)]

theorem lt_bitLength_pow {a : Int} (h : 2 ≤ a.natAbs) (n : Nat) :
    n < bitLength (Int.pow a n) := by
  rw [Integer.lt_bitLength_iff, Integer.natAbs_pow]
  exact Nat.pow_le_pow_left h n

theorem lt_bitLength_mul_shiftLeft (m n : Nat) :
    m + n + 3 < bitLength (Integer.shiftLeft 3 m * Integer.shiftLeft 3 n) := by
  have habs : (Integer.shiftLeft 3 m * Integer.shiftLeft 3 n).natAbs =
      9 * 2 ^ (m + n) := by
    have hleft : (Integer.shiftLeft 3 m).natAbs = 3 * 2 ^ m := Int.natAbs_mul 3 _
    have hright : (Integer.shiftLeft 3 n).natAbs = 3 * 2 ^ n := Int.natAbs_mul 3 _
    rw [Int.natAbs_mul, hleft, hright, Nat.pow_add, Nat.mul_mul_mul_comm]
  rw [Integer.lt_bitLength_iff, habs, Nat.pow_add 2 (m + n) 3]
  omega

/-- Results that are larger than the limit: a power, although the same number is
refused as a shift, and a product. -/
theorem exists_apply_wider_than_maxIntegerBits :
    (exists v, apply .pow (.integer 3) (.integer 1048576) = .ok (.integer v) ∧
        maxIntegerBits < bitLength v) ∧
      (exists v, apply .pow (.integer 2) (.integer 1048576) = .ok (.integer v) ∧
        maxIntegerBits < bitLength v) ∧
      apply .shiftLeft (.integer 1) (.integer 1048576) = .error (.overflow .shiftLeft) ∧
      exists l r v, apply .mul (.integer l) (.integer r) = .ok (.integer v) ∧
        maxIntegerBits < bitLength v := by
  refine ⟨⟨_, apply_pow_natCast 3 1048576 (by decide) (by decide), ?_⟩,
    ⟨_, apply_pow_natCast 2 1048576 (by decide) (by decide), ?_⟩, rfl,
    Integer.shiftLeft 3 524286, Integer.shiftLeft 3 524287, _, apply_mul_integer ?_, ?_⟩
  · exact lt_bitLength_pow (by decide) 1048576
  · exact lt_bitLength_pow (by decide) 1048576
  · have hleft : bitLength (Integer.shiftLeft 3 524286) ≤ 2 + 524286 :=
      Integer.bitLength_shiftLeft_le 3 524286
    have hright : bitLength (Integer.shiftLeft 3 524287) ≤ 2 + 524287 :=
      Integer.bitLength_shiftLeft_le 3 524287
    have hlimit : maxIntegerBits = 1048576 := rfl
    omega
  · exact lt_bitLength_mul_shiftLeft 524286 524287

end Value
end Reckon
