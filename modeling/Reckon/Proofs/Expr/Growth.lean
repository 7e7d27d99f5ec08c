import Reckon.Expr.Evaluation
import Reckon.Proofs.Value.IntegerSize

/-!
# How large integers grow

An integer that an expression evaluates to is at most one bit wider, for each node
of the expression, than the integers in it, or than the sizes that products, powers
and shifts can come to if these are larger. A step of the argument looks at one
operator and the integers that it is applied to.
-/

namespace Reckon

open Integer (bitLength)

namespace Value

/-!
## One operator
-/

/-- An operator adds one bit to a size that no product, power or shift surpasses. -/
theorem YieldsInteger.bitLength_le {op : BinaryOp} {a v : Int} {r : Value} {k : Nat}
    (h : YieldsInteger op a r v) (ha : bitLength a ≤ k)
    (hr : forall b, r = .integer b -> bitLength b ≤ k) (hk : 2 * maxIntegerBits ≤ k) :
    bitLength v ≤ k + 1 := by
  have hlimit : maxIntegerBits + 1 ≤ k :=
    Nat.le_trans (show maxIntegerBits + 1 ≤ 2 * maxIntegerBits by decide) hk
  cases h with
  | add => exact Integer.bitLength_add_le ha (hr _ rfl)
  | sub => exact Integer.bitLength_sub_le ha (hr _ rfl)
  | mul hbits =>
      exact Nat.le_succ_of_le (Nat.le_trans (bitLength_mul_le_maxIntegerBits hbits) hlimit)
  | div _ => exact Nat.le_succ_of_le (Nat.le_trans (Integer.bitLength_tdiv_le a _) ha)
  | pow _ _ hbits =>
      have hpow := (bitLength_pow_le_maxIntegerBits hbits).right
      exact Nat.le_succ_of_le (Nat.le_trans hpow hk)
  | bitAnd =>
      have hfits := Integer.fitsWord_of_bitLength_le ha
      exact (hfits.land (Integer.fitsWord_of_bitLength_le (hr _ rfl))).bitLength_le
  | bitOr =>
      have hfits := Integer.fitsWord_of_bitLength_le ha
      exact (hfits.lor (Integer.fitsWord_of_bitLength_le (hr _ rfl))).bitLength_le
  | bitXor =>
      have hfits := Integer.fitsWord_of_bitLength_le ha
      exact (hfits.lxor (Integer.fitsWord_of_bitLength_le (hr _ rfl))).bitLength_le
  | shiftLeft hbits =>
      have hshift := bitLength_shiftLeft_le_maxIntegerBits hbits
      exact Nat.le_succ_of_le (Nat.le_trans hshift (Nat.le_of_succ_le hlimit))
  | shiftRight => exact Nat.le_succ_of_le (Nat.le_trans (Integer.bitLength_shiftRight_le a _) ha)

theorem bitLength_delta_le (op : StepOp) : bitLength op.delta ≤ 1 := by
  cases op <;> decide

theorem bitLength_of_applyStep {op : StepOp} {v : Value} {m : Int}
    (h : v.applyStep op = .ok (.integer m)) :
    exists n, v = .integer n ∧ forall k, 1 ≤ k -> bitLength n ≤ k -> bitLength m ≤ k + 1 := by
  cases v with
  | integer n =>
      cases h
      refine ⟨n, rfl, ?_⟩
      intro k hk hn
      exact Integer.bitLength_add_le hn (Nat.le_trans (bitLength_delta_le op) hk)
  | decimal _ => exact absurd h decimalResult_ne_integer
  | boolean _ => cases h
  | string _ => cases h
  | duration _ => cases h

end Value

namespace Expr

/-!
## One node
-/

section Evaluated

variable {limit level : Nat} {v : Value}

theorem evaluateAt_literal_eq_ok {w : Value}
    (h : (literal w).evaluateAt limit level = .ok v) : w = v := by
  rw [evaluateAt] at h
  split at h
  · cases h
  · cases h
    rfl

theorem evaluateAt_step_eq_ok {op : StepOp} {operand : Expr}
    (h : (step op operand).evaluateAt limit level = .ok v) :
    exists w, operand.evaluateAt limit (level + 1) = .ok w ∧ w.applyStep op = .ok v := by
  rw [evaluateAt] at h
  split at h
  · cases h
  · cases hoperand : operand.evaluateAt limit (level + 1) with
    | error e =>
        simp only [hoperand] at h
        cases h
    | ok w =>
        simp only [hoperand] at h
        exact ⟨w, rfl, h⟩

theorem evaluateAt_binary_eq_ok {op : BinaryOp} {left right : Expr}
    (h : (binary op left right).evaluateAt limit level = .ok v) :
    exists l r, left.evaluateAt limit (level + 1) = .ok l ∧
      right.evaluateAt limit (level + 1) = .ok r ∧ l.apply op r = .ok v := by
  rw [evaluateAt] at h
  split at h
  · cases h
  · cases hleft : left.evaluateAt limit (level + 1) with
    | error e =>
        simp only [hleft] at h
        cases h
    | ok l =>
        cases hright : right.evaluateAt limit (level + 1) with
        | error e =>
            simp only [hleft, hright] at h
            cases h
        | ok r =>
            simp only [hleft, hright] at h
            exact ⟨l, r, rfl, rfl, h⟩

end Evaluated

/-!
## The whole tree
-/

theorem size_pos (e : Expr) : 0 < e.size :=
  Nat.lt_of_le_of_lt (Nat.zero_le _) e.height_lt_size

theorem bitLength_evaluateAt_le {limit level k : Nat} {e : Expr}
    (hleaves : forall n, Value.integer n ∈ e.leaves -> bitLength n ≤ k)
    (hk : 2 * maxIntegerBits ≤ k) {v : Int}
    (h : e.evaluateAt limit level = .ok (.integer v)) : bitLength v ≤ k + e.size := by
  induction e generalizing level v with
  | literal w =>
      cases evaluateAt_literal_eq_ok h
      exact Nat.le_add_right_of_le (hleaves v List.mem_cons_self)
  | step op operand ih =>
      rcases evaluateAt_step_eq_ok h with ⟨w, hoperand, hstep⟩
      rcases Value.bitLength_of_applyStep hstep with ⟨n, rfl, hbits⟩
      have hpos : 1 ≤ k + operand.size := Nat.le_add_left_of_le operand.size_pos
      exact hbits (k + operand.size) hpos (ih hleaves hoperand)
  | binary op left right ihl ihr =>
      rcases evaluateAt_binary_eq_ok h with ⟨l, r, hleft, hright, happly⟩
      rcases Value.yieldsInteger_of_apply happly with ⟨a, rfl, hyields⟩
      have hl : bitLength a ≤ k + (left.size + right.size) := by
        have hbits := ihl (fun n hn => hleaves n (List.mem_append_left _ hn)) hleft
        omega
      have hr : forall b, r = .integer b -> bitLength b ≤ k + (left.size + right.size) := by
        rintro b rfl
        have hbits := ihr (fun n hn => hleaves n (List.mem_append_right _ hn)) hright
        omega
      exact hyields.bitLength_le hl hr (Nat.le_add_right_of_le hk)

/-- An integer value is no wider than the integers of the expression, or than two to
the power of 21 bits, and one bit for each node. -/
theorem bitLength_evaluate_le (limit width : Nat) (e : Expr)
    (hleaves : forall n, Value.integer n ∈ e.leaves -> bitLength n ≤ width) {v : Int}
    (h : e.evaluate limit = .ok (.integer v)) :
    bitLength v ≤ max width (2 ^ 21) + e.size := by
  have htwice : 2 * maxIntegerBits ≤ max width (2 ^ 21) := by
    rw [show 2 * maxIntegerBits = 2 ^ 21 by decide]
    exact Nat.le_max_right _ _
  apply bitLength_evaluateAt_le _ htwice h
  intro n hn
  exact Nat.le_trans (hleaves n hn) (Nat.le_max_left _ _)

/-- An expression that contains decimals and a negative number, and is moved by a
step. -/
theorem bitLength_evaluate_le_of_tree :
    let e : Expr := .step .decrement (.binary .bitOr
      (.binary .pow (.literal (.integer (-3))) (.literal (.decimal ⟨50, 1⟩)))
      (.binary .shiftRight (.literal (.integer 9)) (.literal (.integer 2))))
    (forall n, Value.integer n ∈ e.leaves -> bitLength n ≤ 4) ∧
      e.evaluate 3 = .ok (.integer (-242)) ∧ bitLength (-242) ≤ max 4 (2 ^ 21) + e.size := by
  intro e
  have hleaves : forall n, Value.integer n ∈ e.leaves -> bitLength n ≤ 4 := by
    intro n hn
    have hmem : n = -3 ∨ n = 9 ∨ n = 2 := by
      simpa [e, leaves] using hn
    rcases hmem with rfl | rfl | rfl <;> decide
  have hpow : Value.apply .pow (.integer (-3)) (.decimal ⟨50, 1⟩) = .ok (.integer (-243)) := by
    decide +kernel
  have hvalue : e.evaluate 3 = .ok (.integer (-242)) := by
    simp [e, evaluate, evaluateAt, hpow]
    rfl
  exact ⟨hleaves, hvalue, bitLength_evaluate_le 3 4 e hleaves hvalue⟩

end Expr
end Reckon
