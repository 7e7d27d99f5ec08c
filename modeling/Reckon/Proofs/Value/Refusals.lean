import Reckon.Proofs.Value.IntegerSize

/-!
# Integer results that are refused

Products, powers and shifts to the left are judged by a size that is foreseen from
their operands. It is at most the size of the exact result, so that no result within
the limit is refused, except for one: zero times a number that is too wide is zero,
but is foreseen to be as wide as that number.
-/

namespace Reckon
namespace Value

open Integer (bitLength)

/-!
## What is foreseen
-/

/-- The exact result of an operator whose results are limited in size. Exponents and
shift counts are those that the operator takes. -/
inductive ExactResult : BinaryOp -> Int -> Int -> Int -> Prop where
  | mul (a b : Int) : ExactResult .mul a b (a * b)
  | pow (a : Int) {n : Nat} : n < exponentLimit -> ExactResult .pow a n (a ^ n)
  | shiftLeft (a : Int) {count : Nat} :
      count ≤ maxShift -> ExactResult .shiftLeft a count (a * 2 ^ count)

/-- The size in bits by which a result is judged. -/
def foreseenBits (op : BinaryOp) (l r : Int) : Nat :=
  match op with
  | .mul => bitLength l + bitLength r - 1
  | .pow => (bitLength l - 1) * r.natAbs
  | .shiftLeft => if l = 0 then 0 else bitLength l + r.natAbs
  | _ => 0

/-- A product with zero of a number that is more than one bit wider than the limit. -/
def IsWideZero (op : BinaryOp) (l r : Int) : Prop :=
  op = .mul ∧
    (l = 0 ∧ maxIntegerBits + 1 < bitLength r ∨ r = 0 ∧ maxIntegerBits + 1 < bitLength l)

section Exact

variable {op : BinaryOp} {l r v : Int}

/-- There is an exact result or a refusal, and what is foreseen tells which. -/
theorem apply_of_exactResult (h : ExactResult op l r v) :
    apply op (.integer l) (.integer r) =
      if maxIntegerBits < foreseenBits op l r then .error (.overflow op)
      else .ok (.integer v) := by
  cases h with
  | mul => exact apply_mul_eq l r
  | pow _ hn => exact apply_pow_eq l hn
  | @shiftLeft _ count hcount =>
      rw [apply_shiftLeft_eq l hcount, Integer.shiftLeft_eq, foreseenBits, Int.natAbs_natCast]
      by_cases hzero : l = 0
      · rw [if_neg (fun h => h.left hzero), if_pos hzero, if_neg (Nat.not_lt_zero _)]
      · simp only [ne_eq, hzero, not_false_eq_true, true_and, if_false]

theorem foreseenBits_le (h : ExactResult op l r v) (hzero : op = .mul -> v ≠ 0) :
    foreseenBits op l r ≤ bitLength v := by
  cases h with
  | mul =>
      have hne := mt Int.mul_eq_zero.mpr (hzero rfl)
      exact Integer.le_bitLength_mul (fun hl => hne (Or.inl hl)) fun hr => hne (Or.inr hr)
  | @pow _ n _ =>
      by_cases hbase : l = 0
      · rw [foreseenBits, hbase]
        exact Nat.le_trans (Nat.le_of_eq (Nat.zero_mul _)) (Nat.zero_le _)
      · exact Nat.le_of_lt (Integer.lt_bitLength_pow hbase n)
  | @shiftLeft _ count _ =>
      rw [foreseenBits]
      split
      · exact Nat.zero_le _
      · next hbase =>
          rw [Int.natAbs_natCast, ← Integer.shiftLeft_eq]
          exact Integer.le_bitLength_shiftLeft hbase count

theorem isWideZero_of_mul_eq_zero (hzero : l * r = 0)
    (h : maxIntegerBits < foreseenBits .mul l r) : IsWideZero .mul l r := by
  have hnone : bitLength 0 = 0 := rfl
  rw [foreseenBits] at h
  refine ⟨rfl, ?_⟩
  rcases Int.mul_eq_zero.mp hzero with rfl | rfl
  · exact Or.inl ⟨rfl, by omega⟩
  · exact Or.inr ⟨rfl, by omega⟩

theorem lt_foreseenBits_of_isWideZero (h : IsWideZero op l r) :
    maxIntegerBits < foreseenBits op l r := by
  have hnone : bitLength 0 = 0 := rfl
  rcases h with ⟨rfl, ⟨rfl, hwide⟩ | ⟨rfl, hwide⟩⟩
  · rw [foreseenBits]
    omega
  · rw [foreseenBits]
    omega

/-!
## What is refused
-/

/-- A product, a power or a shift to the left is refused only if its exact result is
wider than the limit, and a result within the limit is returned exactly. The one
exception is zero times a number that is itself too wide, which is always refused. -/
theorem apply_eq_ok_of_fits (h : ExactResult op l r v) :
    (apply op (.integer l) (.integer r) = .error (.overflow op) ->
        maxIntegerBits < bitLength v ∨ IsWideZero op l r) ∧
      (bitLength v ≤ maxIntegerBits -> ¬ IsWideZero op l r ->
        apply op (.integer l) (.integer r) = .ok (.integer v)) ∧
      (IsWideZero op l r -> v = 0 ∧
        apply op (.integer l) (.integer r) = .error (.overflow op)) := by
  have hforeseen : maxIntegerBits < foreseenBits op l r ->
      maxIntegerBits < bitLength v ∨ IsWideZero op l r := by
    intro hrefused
    by_cases hzero : op = .mul ∧ v = 0
    · rcases hzero with ⟨rfl, hv⟩
      cases h with
      | mul => exact Or.inr (isWideZero_of_mul_eq_zero hv hrefused)
    · have hle := foreseenBits_le h fun hop hv => hzero ⟨hop, hv⟩
      exact Or.inl (Nat.lt_of_lt_of_le hrefused hle)
  rw [apply_of_exactResult h]
  refine ⟨?_, ?_, ?_⟩
  · intro hrefused
    split at hrefused
    · next hbits => exact hforeseen hbits
    · cases hrefused
  · intro hfits hexcept
    rw [if_neg]
    intro hbits
    rcases hforeseen hbits with hwide | hzero
    · exact Nat.not_lt.mpr hfits hwide
    · exact hexcept hzero
  · intro hzero
    rw [if_pos (lt_foreseenBits_of_isWideZero hzero)]
    rcases hzero with ⟨rfl, hfactor⟩
    cases h with
    | mul =>
        refine ⟨?_, rfl⟩
        rcases hfactor with ⟨rfl, -⟩ | ⟨rfl, -⟩
        · exact Int.zero_mul r
        · exact Int.mul_zero l

end Exact

/-- The largest power of two that a shift can make. -/
theorem apply_eq_ok_of_fits_of_shift :
    ExactResult .shiftLeft (-1) (1048575 : Nat) (-1 * 2 ^ 1048575) ∧
      bitLength (-1 * 2 ^ 1048575) ≤ maxIntegerBits ∧
      apply .shiftLeft (.integer (-1)) (.integer (1048575 : Nat)) =
        .ok (.integer (-1 * 2 ^ 1048575)) := by
  have hexact : ExactResult .shiftLeft (-1) (1048575 : Nat) (-1 * 2 ^ 1048575) :=
    .shiftLeft (-1) (by decide)
  have hfits : bitLength (-1 * 2 ^ 1048575) ≤ maxIntegerBits := by
    rw [← Integer.shiftLeft_eq]
    exact Integer.bitLength_shiftLeft_le (-1) 1048575
  have hother : ¬ IsWideZero .shiftLeft (-1) (1048575 : Nat) := fun h => nomatch h.left
  exact ⟨hexact, hfits, (apply_eq_ok_of_fits hexact).right.left hfits hother⟩

/-!
The exception can be reached: a power may be wider than the limit, and is then refused
as a factor of zero.
-/

theorem lt_bitLength_three_pow (n : Nat) : 3 * n < bitLength (Int.pow 3 (2 * n)) := by
  have hsquares : (3 : Int) ^ (2 * n) = 9 ^ n := by
    rw [Int.pow_mul]
    rfl
  show 3 * n < bitLength ((3 : Int) ^ (2 * n))
  have hnine : (9 : Int) ≠ 0 := by decide
  rw [hsquares]
  exact Integer.lt_bitLength_pow hnine n

theorem apply_mul_zero_refused :
    apply .pow (.integer 3) (.integer 1048576) = .ok (.integer (Int.pow 3 1048576)) ∧
      ExactResult .mul 0 (Int.pow 3 1048576) 0 ∧ bitLength 0 ≤ maxIntegerBits ∧
      apply .mul (.integer 0) (.integer (Int.pow 3 1048576)) = .error (.overflow .mul) := by
  have hexact : ExactResult .mul 0 (Int.pow 3 1048576) 0 := by
    have hmul := ExactResult.mul 0 (Int.pow 3 1048576)
    rw [Int.zero_mul] at hmul
    exact hmul
  have hlimit : maxIntegerBits + 1 ≤ 3 * 524288 := by decide
  have hwide : IsWideZero .mul 0 (Int.pow 3 1048576) :=
    ⟨rfl, Or.inl ⟨rfl, Nat.lt_of_le_of_lt hlimit (lt_bitLength_three_pow 524288)⟩⟩
  refine ⟨apply_pow_natCast 3 1048576 (by decide) (by decide), hexact, Nat.zero_le _, ?_⟩
  rw [apply_of_exactResult hexact, if_pos (lt_foreseenBits_of_isWideZero hwide)]

end Value
end Reckon
