import Reckon.Proofs.Value.Representation

/-!
# Exponents written as decimals

A whole number is as good an exponent written as a decimal as it is as an integer, with
whatever digits and scale. An exponent that is not whole is refused. A decimal is refused for
its size before it is asked whether it is whole, and an integer of that size would be refused
as well.
-/

namespace Reckon

namespace Decimal

theorem lt_leadingExponent_iff {d : Decimal} (h : d.coefficient ≠ 0) (place : Int) :
    place < d.leadingExponent <-> 10 ^ (place + 1) ≤ |d.toRat| := by
  have hpos := abs_pos.mpr (mt toRat_eq_zero_iff.mp h)
  rw [leadingExponent_eq_log h, ← Int.add_one_le_iff]
  exact (Int.zpow_le_iff_le_log (by decide) hpos).symm

end Decimal

namespace Value

section Exponents

variable {op : BinaryOp} {l r r' : Value} {d : Decimal} {n : Int} {x : ℚ} {e : EvalError}

/-!
## What is read of an exponent
-/

theorem wholeExponent_of_not_whole (h : forall n : Int, d.toRat ≠ n) (hread : CanBeRead d)
    (op : BinaryOp) (l : Value) :
    wholeExponent op l (.decimal d) = .error (.invalidOperand op
      (if 10 ^ 11 ≤ |d.toRat| then .exponentTooLong d else .exponentNotWhole)) := by
  have hne : d.coefficient ≠ 0 := by
    intro hzero
    apply h 0
    rw [Decimal.toRat_eq_zero_iff.mpr hzero, Int.cast_zero]
  have hwhole : d.isWhole = false := by
    rw [Bool.eq_false_iff, ne_eq, Decimal.isWhole_iff]
    exact not_exists.mpr h
  have hlong : 10 < d.leadingExponent <-> 10 ^ 11 ≤ |d.toRat| :=
    Decimal.lt_leadingExponent_iff hne 10
  rw [wholeExponent_of_canBeRead hne hread, hwhole, Bool.and_false]
  by_cases hsize : 10 < d.leadingExponent
  · rw [if_pos hsize, if_pos (hlong.mp hsize)]
  · rw [if_neg hsize, if_neg (mt hlong.mpr hsize)]
    rfl

/-!
## Raising to it
-/

theorem pow_of_wholeExponent_eq_error (h : wholeExponent op l r = .error e) :
    pow op l r = .error e := by
  rw [pow, h]

theorem pow_congr (hl : l.number? = some x)
    (h : wholeExponent op l r = wholeExponent op l r') : pow op l r = pow op l r' := by
  rw [pow, pow, h]
  cases l with
  | integer _ => rfl
  | decimal _ => rfl
  | boolean _ => cases hl
  | string _ => cases hl
  | duration _ => cases hl

theorem apply_pow_of_number? (hl : l.number? = some x) (r : Value) :
    l.apply .pow r = pow .pow l r := by
  rw [apply, if_pos (supports_of_number? (.inl rfl) hl)]
  rfl

theorem pow_of_exponentLimit_le (h : exponentLimit ≤ n.natAbs) (l : Value) :
    pow .pow l (.integer n) = .error (.invalidOperand .pow (.exponentOutOfRange n)) := by
  rw [pow, wholeExponent]
  dsimp only
  rw [if_pos h]

/-- Raising a number to a decimal exponent is raising it to the whole number that the exponent
stands for, or both are refused for the size of the exponent. If the exponent stands for no
whole number it is refused for that, or likewise for its size. An exponent that cannot be read
has more than eleven digits before its point or stands for no whole number, and traps. -/
theorem apply_pow_decimal_exponent (hl : l.number? = some x) (d : Decimal) :
    (forall n : Int, d.toRat = n -> n.natAbs < 10 ^ 11 ->
        l.apply .pow (.decimal d) = l.apply .pow (.integer n)) ∧
      (CanBeRead d ->
        (forall n : Int, d.toRat = n -> 10 ^ 11 ≤ n.natAbs ->
          l.apply .pow (.decimal d) = .error (.invalidOperand .pow (.exponentTooLong d)) ∧
          l.apply .pow (.integer n) = .error (.invalidOperand .pow (.exponentOutOfRange n))) ∧
        ((forall n : Int, d.toRat ≠ n) ->
          l.apply .pow (.decimal d) = .error (.invalidOperand .pow
            (if 10 ^ 11 ≤ |d.toRat| then .exponentTooLong d else .exponentNotWhole)))) ∧
      (¬ CanBeRead d -> l.apply .pow (.decimal d) = .error .trap) := by
  simp only [apply_pow_of_number? hl]
  refine ⟨?_, fun hread => ⟨?_, ?_⟩, ?_⟩
  · intro n hn hshort
    have hexponent := wholeExponent_of_toRat_eq hn (canBeRead_of_toRat_eq hn hshort) .pow l
    rw [if_neg (not_le.mpr hshort)] at hexponent
    exact pow_congr hl hexponent
  · intro n hn hlong
    have hexponent := wholeExponent_of_toRat_eq hn hread .pow l
    rw [if_pos hlong] at hexponent
    have hlimit : exponentLimit ≤ n.natAbs := le_trans (by decide) hlong
    exact ⟨pow_of_wholeExponent_eq_error hexponent, pow_of_exponentLimit_le hlimit l⟩
  · intro hnone
    exact pow_of_wholeExponent_eq_error (wholeExponent_of_not_whole hnone hread .pow l)
  · intro hread
    exact pow_of_wholeExponent_eq_error (wholeExponent_of_not_canBeRead hread .pow l)

/-- A minus three written with a place, a number of more than eleven digits, and a half. -/
theorem apply_pow_decimal_exponent_of_places :
    let base : Value := .integer 2
    base.apply .pow (.decimal ⟨-30, 1⟩) = base.apply .pow (.integer (-3)) ∧
      base.apply .pow (.decimal ⟨25, -20⟩) =
        .error (.invalidOperand .pow (.exponentTooLong ⟨25, -20⟩)) ∧
      base.apply .pow (.decimal ⟨5, 1⟩) = .error (.invalidOperand .pow .exponentNotWhole) := by
  intro base
  have hbase : base.number? = some 2 := by
    norm_num [base, number?]
  have hthree : (⟨-30, 1⟩ : Decimal).toRat = (-3 : Int) := by
    norm_num [Decimal.toRat]
  have hlong : (⟨25, -20⟩ : Decimal).toRat = (25 * 10 ^ 20 : Int) := by
    norm_num [Decimal.toRat]
  have hhalf : (⟨5, 1⟩ : Decimal).toRat = 1 / 2 := by
    norm_num [Decimal.toRat]
  have hnone : forall n : Int, (⟨5, 1⟩ : Decimal).toRat ≠ n := by
    intro n hn
    rw [hhalf, div_eq_iff two_ne_zero] at hn
    have hodd : (1 : Int) = n * 2 := by exact_mod_cast hn
    omega
  have hread : CanBeRead ⟨25, -20⟩ := fun _ => by decide +kernel
  have hread' : CanBeRead ⟨5, 1⟩ := fun _ => by decide +kernel
  refine ⟨?_, ?_, ?_⟩
  · exact (apply_pow_decimal_exponent hbase _).left _ hthree (by decide)
  · exact (((apply_pow_decimal_exponent hbase _).right.left hread).left _ hlong
      (by decide)).left
  · rw [((apply_pow_decimal_exponent hbase _).right.left hread').right hnone, if_neg]
    rw [hhalf]
    norm_num [abs_of_pos]

theorem exists_toRat_eq_of_places (count : Nat) (h : 10 ≤ count) :
    exists n : Int, (⟨1, -count⟩ : Decimal).toRat = n ∧ exponentLimit ≤ n.natAbs := by
  refine ⟨(Numeral.tenPow count : Nat), ?_, ?_⟩
  · rw [Decimal.toRat, neg_neg, Int.cast_one, one_mul, Int.cast_natCast, Decimal.cast_tenPow]
  · rw [Int.natAbs_natCast]
    exact le_trans (by decide) (Numeral.tenPow_le h)

/-- A literal for a power of ten whose first digit has no place in the range of scales. As an
integer exponent it is refused, as a decimal one it traps. -/
theorem apply_pow_of_widest_trapped :
    let d : Decimal := ⟨1, -9223372036854775808⟩
    Decimal.ofChars "1e9223372036854775808".toList = .ok d ∧
      (Value.integer 2).apply .pow (.decimal d) = .error .trap ∧
      exists n : Int, d.toRat = n ∧
        (Value.integer 2).apply .pow (.integer n) =
          .error (.invalidOperand .pow (.exponentOutOfRange n)) := by
  intro d
  rcases exists_toRat_eq_of_places 9223372036854775808 (by decide) with ⟨n, hnumber, hlimit⟩
  refine ⟨by decide +kernel, by decide +kernel, n, hnumber, ?_⟩
  exact pow_of_exponentLimit_le hlimit (.integer 2)

end Exponents

end Value
end Reckon
