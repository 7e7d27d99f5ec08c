import Reckon.Proofs.Decimal.Sums
import Reckon.Proofs.Value.Alike

/-!
# The order of numbers

Integers and decimals stand for rational numbers, and are compared as these, whatever
their kinds and however far apart they are. So the six comparisons agree with each other
and are one total order on all numbers. Subtraction agrees with them too: a difference
has the sign that the comparison of its operands tells, also where one operand is
dropped and the other one rounded.

All this is so for numbers whose first digits have places in the range of scales. With
others, comparisons and differences trap.
-/

namespace Reckon
namespace Value

/-- The number that a value stands for, if it is one. -/
def number? : Value -> Option ℚ
  | .integer n => some n
  | .decimal d => some d.toRat
  | _ => none

theorem toRat_ofInt (n : Int) : (Decimal.ofInt n).toRat = n := by
  rw [Decimal.toRat, Decimal.ofInt, neg_zero, zpow_zero, mul_one]

section Numbers

variable {l r : Value} {x y : ℚ}

theorem asDecimal?_of_number? (h : l.number? = some x) :
    exists a, l.asDecimal? = some a ∧ a.toRat = x := by
  cases l with
  | integer n =>
      cases h
      exact ⟨_, rfl, toRat_ofInt n⟩
  | decimal d =>
      cases h
      exact ⟨d, rfl, rfl⟩
  | boolean b => cases h
  | string s => cases h
  | duration d => cases h

theorem promote_of_number? (hl : l.number? = some x) (hr : r.number? = some y)
    (op : BinaryOp) :
    exists a b, promote op l r = .ok (a, b) ∧ a.toRat = x ∧ b.toRat = y := by
  rcases asDecimal?_of_number? hl with ⟨a, ha, hx⟩
  rcases asDecimal?_of_number? hr with ⟨b, hb, hy⟩
  refine ⟨a, b, ?_, hx, hy⟩
  rw [promote, ha, hb]

theorem promote_eq_ok {op other : BinaryOp} {p : Decimal × Decimal}
    (h : promote other l r = .ok p) : promote op l r = .ok p := by
  unfold promote at h ⊢
  split at h
  · exact h
  · cases h

/-- Whether the first digit of a number has a place in the range of scales. Integers that
lack one have more than two to the power of 63 digits. -/
def HasPlace (v : Value) : Prop :=
  forall d, v.asDecimal? = some d -> d.hasPlace = true

theorem promote_of_hasPlace (hl : l.number? = some x) (hr : r.number? = some y)
    (hlplace : l.HasPlace) (hrplace : r.HasPlace) (op : BinaryOp) :
    exists a b, promote op l r = .ok (a, b) ∧ a.toRat = x ∧ b.toRat = y ∧
      a.hasPlace = true ∧ b.hasPlace = true := by
  rcases asDecimal?_of_number? hl with ⟨a, ha, hx⟩
  rcases asDecimal?_of_number? hr with ⟨b, hb, hy⟩
  refine ⟨a, b, ?_, hx, hy, hlplace a ha, hrplace b hb⟩
  rw [promote, ha, hb]

theorem integers_or_decimal (hl : l.number? = some x) (hr : r.number? = some y) :
    (exists m n : Int, l = .integer m ∧ r = .integer n ∧ (m : ℚ) = x ∧ (n : ℚ) = y) ∨
      l.kind = .decimal ∨ r.kind = .decimal := by
  cases l with
  | decimal a => exact .inr (.inl rfl)
  | integer m =>
      cases r with
      | decimal b => exact .inr (.inr rfl)
      | integer n =>
          cases hl
          cases hr
          exact .inl ⟨m, n, rfl, rfl, rfl, rfl⟩
      | boolean b => cases hr
      | string s => cases hr
      | duration d => cases hr
  | boolean b => cases hl
  | string s => cases hl
  | duration d => cases hl

/-!
## Comparisons
-/

theorem ordering_of_integers (m n : Int) (op : BinaryOp) :
    ordering op (.integer m) (.integer n) = .ok (compare (m : ℚ) n) := by
  show Except.ok (compare m n) = _
  rw [← cmp_eq_compare, ← cmp_eq_compare, Int.cast_strictMono.cmp_map_eq]

theorem ordering_of_canCompare {other : BinaryOp} {a b : Decimal}
    (hdecimal : l.kind = .decimal ∨ r.kind = .decimal)
    (hpromote : promote other l r = .ok (a, b)) (h : a.canCompare b = true) (op : BinaryOp) :
    ordering op l r = .ok (compare a.toRat b.toRat) := by
  rw [ordering_of_decimal hdecimal, promote_eq_ok hpromote]
  dsimp only
  rw [Decimal.compare?_of_canCompare h, Decimal.compare_eq_cmp, cmp_eq_compare]
  rfl

/-- Numbers are ordered as the rational numbers that they stand for. -/
theorem ordering_of_hasPlace (hl : l.number? = some x) (hr : r.number? = some y)
    (hlplace : l.HasPlace) (hrplace : r.HasPlace) (op : BinaryOp) :
    ordering op l r = .ok (compare x y) := by
  rcases integers_or_decimal hl hr with ⟨m, n, rfl, rfl, rfl, rfl⟩ | hdecimal
  · exact ordering_of_integers m n op
  · rcases promote_of_hasPlace hl hr hlplace hrplace op with
      ⟨a, b, hpromote, rfl, rfl, ha, hb⟩
    exact ordering_of_canCompare hdecimal hpromote (Decimal.canCompare_of_hasPlace ha hb) op

theorem family_of_holds? {op : BinaryOp} {order : Ordering} {answer : Bool}
    (h : holds? op order = some answer) : op.family = .comparison := by
  cases op with
  | eq | ne | lt | le | gt | ge => rfl
  | add | sub | mul | div | pow => cases h
  | bitAnd | bitOr | bitXor | shiftLeft | shiftRight => cases h
  | and | or => cases h

theorem supports_of_number? {op : BinaryOp}
    (hop : op.family = .arithmetic ∨ op.family = .comparison) (hl : l.number? = some x) :
    l.kind.supports op = true := by
  unfold Kind.supports
  cases l with
  | integer n => rcases hop with hop | hop <;> rw [hop] <;> rfl
  | decimal d => rcases hop with hop | hop <;> rw [hop] <;> rfl
  | boolean b => cases hl
  | string s => cases hl
  | duration d => cases hl

theorem apply_of_comparison {op : BinaryOp} (hop : op.family = .comparison)
    (hl : l.number? = some x) : apply op l r = comparison op l r := by
  rw [apply, if_pos (supports_of_number? (.inr hop) hl)]
  cases op with
  | eq | ne | lt | le | gt | ge => rfl
  | add | sub | mul | div | pow => cases hop
  | bitAnd | bitOr | bitXor | shiftLeft | shiftRight => cases hop
  | and | or => cases hop

/-- The question that a comparison asks of two numbers. -/
def question? (op : BinaryOp) (x y : ℚ) : Option Bool :=
  match op with
  | .eq => some (x = y)
  | .ne => some (x ≠ y)
  | .lt => some (x < y)
  | .le => some (x ≤ y)
  | .gt => some (x > y)
  | .ge => some (x ≥ y)
  | _ => none

theorem holds?_compare (op : BinaryOp) (x y : ℚ) :
    holds? op (compare x y) = question? op x y := by
  cases op with
  | eq =>
      rw [holds?, question?, Option.some_inj, Bool.eq_iff_iff, decide_eq_true_iff,
        Ordering.isEq_iff_eq_eq, compare_eq_iff_eq]
  | ne =>
      rw [holds?, question?, Option.some_inj, Bool.eq_iff_iff, decide_eq_true_iff,
        Ordering.isNe_iff_ne_eq, ne_eq, compare_eq_iff_eq]
  | lt =>
      rw [holds?, question?, Option.some_inj, Bool.eq_iff_iff, decide_eq_true_iff,
        Ordering.isLT_iff_eq_lt, compare_lt_iff_lt]
  | le =>
      rw [holds?, question?, Option.some_inj, Bool.eq_iff_iff, decide_eq_true_iff,
        Ordering.isLE_iff_ne_gt, ← ne_eq, compare_le_iff_le]
  | gt =>
      rw [holds?, question?, Option.some_inj, Bool.eq_iff_iff, decide_eq_true_iff,
        Ordering.isGT_iff_eq_gt, compare_gt_iff_gt]
  | ge =>
      rw [holds?, question?, Option.some_inj, Bool.eq_iff_iff, decide_eq_true_iff,
        Ordering.isGE_iff_ne_lt, ← ne_eq, compare_ge_iff_ge]
  | add | sub | mul | div | pow => rfl
  | bitAnd | bitOr | bitXor | shiftLeft | shiftRight => rfl
  | and | or => rfl

theorem apply_of_question? {op : BinaryOp} {answer : Bool} (hl : l.number? = some x)
    (horder : forall op, ordering op l r = .ok (compare x y))
    (h : question? op x y = some answer) : apply op l r = .ok (.boolean answer) := by
  rw [← holds?_compare] at h
  rw [apply_of_comparison (family_of_holds? h) hl, comparison, horder]
  dsimp only
  rw [h]

theorem apply_eq_iff (hl : l.number? = some x)
    (horder : forall op, ordering op l r = .ok (compare x y)) :
    apply .eq l r = .ok (.boolean true) <-> x = y := by
  rw [apply_of_question? hl horder rfl, Except.ok.injEq, boolean.injEq, decide_eq_true_iff]

/-- Whether the one value is at most the other. -/
def IsAtMost (l r : Value) : Prop :=
  apply .le l r = .ok (.boolean true)

theorem isAtMost_iff (hl : l.number? = some x) (hr : r.number? = some y)
    (hlplace : l.HasPlace) (hrplace : r.HasPlace) : IsAtMost l r <-> x ≤ y := by
  rw [IsAtMost, apply_of_question? hl (ordering_of_hasPlace hl hr hlplace hrplace) rfl,
    Except.ok.injEq, boolean.injEq, decide_eq_true_iff]

/-- Integers and decimals are ordered as the rational numbers that they stand for, and
the six comparisons tell just this order. So numbers of both kinds are in one total
order, in which those that are equal are at most each other. -/
theorem comparisons_of_numbers (hl : l.number? = some x) (hr : r.number? = some y)
    (hlplace : l.HasPlace) (hrplace : r.HasPlace) :
    (forall op, ordering op l r = .ok (compare x y)) ∧
      (apply .eq l r = .ok (.boolean (x = y)) ∧
        apply .ne l r = .ok (.boolean (x ≠ y)) ∧
        apply .lt l r = .ok (.boolean (x < y)) ∧
        apply .le l r = .ok (.boolean (x ≤ y)) ∧
        apply .gt l r = .ok (.boolean (x > y)) ∧
        apply .ge l r = .ok (.boolean (x ≥ y))) ∧
      (IsAtMost l r ∨ IsAtMost r l) ∧
      (IsAtMost l r ∧ IsAtMost r l <-> apply .eq l r = .ok (.boolean true)) ∧
      forall m z, m.number? = some z -> m.HasPlace ->
        IsAtMost l r -> IsAtMost r m -> IsAtMost l m := by
  have horder := ordering_of_hasPlace hl hr hlplace hrplace
  refine ⟨horder, ⟨?_, ?_, ?_, ?_, ?_, ?_⟩, ?_, ?_, ?_⟩
  · exact apply_of_question? hl horder rfl
  · exact apply_of_question? hl horder rfl
  · exact apply_of_question? hl horder rfl
  · exact apply_of_question? hl horder rfl
  · exact apply_of_question? hl horder rfl
  · exact apply_of_question? hl horder rfl
  · rw [isAtMost_iff hl hr hlplace hrplace, isAtMost_iff hr hl hrplace hlplace]
    exact le_total x y
  · rw [isAtMost_iff hl hr hlplace hrplace, isAtMost_iff hr hl hrplace hlplace,
      apply_eq_iff hl horder]
    exact le_antisymm_iff.symm
  · intro m z hm hmplace
    rw [isAtMost_iff hl hr hlplace hrplace, isAtMost_iff hr hm hrplace hmplace,
      isAtMost_iff hl hm hlplace hmplace]
    exact le_trans

end Numbers

/-- A negative integer below a negative decimal with zeros behind its digits. -/
theorem comparisons_of_numbers_of_negative :
    let l : Value := .integer (-3)
    let r : Value := .decimal ⟨-250, 2⟩
    l.number? = some (-3) ∧ r.number? = some (Decimal.toRat ⟨-250, 2⟩) ∧
      l.HasPlace ∧ r.HasPlace ∧ ordering .lt l r = .ok .lt ∧
      l.apply .lt r = .ok (.boolean true) ∧ l.apply .ge r = .ok (.boolean false) := by
  intro l r
  have hl : l.number? = some (-3) := rfl
  have hr : r.number? = some (Decimal.toRat ⟨-250, 2⟩) := rfl
  have hlplace : l.HasPlace := by
    rintro d ⟨⟩
    decide +kernel
  have hrplace : r.HasPlace := by
    rintro d ⟨⟩
    decide +kernel
  have hlt : (-3 : ℚ) < Decimal.toRat ⟨-250, 2⟩ := by norm_num [Decimal.toRat]
  rcases comparisons_of_numbers hl hr hlplace hrplace with
    ⟨horder, ⟨-, -, hless, -, -, hgreater⟩, -⟩
  refine ⟨hl, hr, hlplace, hrplace, ?_, ?_, ?_⟩
  · rw [horder, compare_lt_iff_lt.mpr hlt]
  · rw [hless, decide_eq_true hlt]
  · rw [hgreater, decide_eq_false (not_le.mpr hlt)]

/-!
## Differences
-/

section Numbers

variable {l r : Value} {x y : ℚ}

/-- Whether the difference of two numbers can be formed. Nothing is asked about integers,
nor if the one or the other is zero. -/
def CanSubtract (l r : Value) : Prop :=
  l.kind = .decimal ∨ r.kind = .decimal ->
    forall a b, promote .sub l r = .ok (a, b) -> a.canAdd (-b) = true

theorem canSubtract_of_hasPlace (hl : l.number? = some x) (hr : r.number? = some y)
    (hlplace : l.HasPlace) (hrplace : r.HasPlace) : CanSubtract l r := by
  intro _ a b hpromote
  rcases promote_of_hasPlace hl hr hlplace hrplace .sub with ⟨a', b', hpromote', -, -, ha, hb⟩
  rw [hpromote'] at hpromote
  cases hpromote
  rw [Decimal.canAdd_neg]
  exact Decimal.canAdd_of_hasPlace ha hb

theorem ordering_of_canSubtract (hl : l.number? = some x) (hr : r.number? = some y)
    (h : CanSubtract l r) (op : BinaryOp) : ordering op l r = .ok (compare x y) := by
  rcases integers_or_decimal hl hr with ⟨m, n, rfl, rfl, rfl, rfl⟩ | hdecimal
  · exact ordering_of_integers m n op
  · rcases promote_of_number? hl hr .sub with ⟨a, b, hpromote, rfl, rfl⟩
    have hadd := h hdecimal a b hpromote
    rw [Decimal.canAdd_neg] at hadd
    exact ordering_of_canCompare hdecimal hpromote (Decimal.canCompare_of_canAdd hadd) op

theorem exists_sub_of_canSubtract (hl : l.number? = some x) (hr : r.number? = some y)
    (h : CanSubtract l r) :
    exists v z, apply .sub l r = .ok v ∧ v.number? = some z ∧
      compare z 0 = compare x y := by
  rw [apply, if_pos (supports_of_number? (.inl rfl) hl), perform]
  rcases integers_or_decimal hl hr with ⟨m, n, rfl, rfl, rfl, rfl⟩ | hdecimal
  · refine ⟨.integer (m - n), ((m - n : Int) : ℚ), rfl, rfl, ?_⟩
    rw [← cmp_eq_compare, ← cmp_eq_compare, Int.cast_sub, cmp_sub_zero]
  · rcases promote_of_number? hl hr .sub with ⟨a, b, hpromote, rfl, rfl⟩
    refine ⟨.decimal (a.sum (-b)), (a.sum (-b)).toRat, ?_, rfl, ?_⟩
    · rw [sub_eq_onDecimals hdecimal, onDecimals, hpromote]
      dsimp only
      rw [Decimal.sum?_of_canAdd (h hdecimal a b hpromote)]
      rfl
    · rw [← cmp_eq_compare, ← cmp_eq_compare, Decimal.cmp_sum_neg_zero]

theorem apply_sub_of_not_canSubtract (hl : l.number? = some x) (h : ¬ CanSubtract l r) :
    apply .sub l r = .error .trap := by
  rw [CanSubtract] at h
  push Not at h
  rcases h with ⟨hdecimal, a, b, hpromote, hadd⟩
  rw [apply, if_pos (supports_of_number? (.inl rfl) hl), perform, sub_eq_onDecimals hdecimal,
    onDecimals, hpromote]
  dsimp only
  rw [Decimal.sum?_eq_none_iff.mpr (Bool.eq_false_iff.mpr hadd)]
  rfl

/-- Where the difference of two numbers can be formed, as it can if their first digits have
places, it is a number with the sign that their comparison tells, and so is zero only if
they are equal. Where it cannot, subtraction traps. -/
theorem sub_of_numbers (hl : l.number? = some x) (hr : r.number? = some y) :
    (l.HasPlace -> r.HasPlace -> CanSubtract l r) ∧
      (CanSubtract l r -> exists v z, apply .sub l r = .ok v ∧ v.number? = some z ∧
        (forall op, ordering op l r = .ok (compare z 0)) ∧
        (z = 0 <-> apply .eq l r = .ok (.boolean true))) ∧
      (¬ CanSubtract l r -> apply .sub l r = .error .trap) := by
  refine ⟨canSubtract_of_hasPlace hl hr, ?_, apply_sub_of_not_canSubtract hl⟩
  intro h
  rcases exists_sub_of_canSubtract hl hr h with ⟨v, z, hsub, hz, horder⟩
  refine ⟨v, z, hsub, hz, ?_, ?_⟩
  · intro op
    rw [horder, ordering_of_canSubtract hl hr h]
  · rw [apply_eq_iff hl (ordering_of_canSubtract hl hr h), ← compare_eq_iff_eq, horder,
      compare_eq_iff_eq]

end Numbers

/-- A number beside one with two hundred more digits, which is all that the difference
is made from. -/
theorem sub_of_numbers_of_gap :
    let l : Value := .integer 7
    let r : Value := .decimal ⟨1, -200⟩
    l.number? = some 7 ∧ r.number? = some (Decimal.toRat ⟨1, -200⟩) ∧ CanSubtract l r ∧
      exists v z, l.apply .sub r = .ok v ∧ v.number? = some z ∧ z < 0 ∧
        l.apply .eq r ≠ .ok (.boolean true) := by
  intro l r
  have hl : l.number? = some 7 := rfl
  have hr : r.number? = some (Decimal.toRat ⟨1, -200⟩) := rfl
  have hlplace : l.HasPlace := by
    rintro d ⟨⟩
    decide +kernel
  have hrplace : r.HasPlace := by
    rintro d ⟨⟩
    decide +kernel
  have hlt : (7 : ℚ) < Decimal.toRat ⟨1, -200⟩ := by norm_num [Decimal.toRat]
  have hrange := (sub_of_numbers hl hr).left hlplace hrplace
  rcases (sub_of_numbers hl hr).right.left hrange with ⟨v, z, hsub, hz, horder, hzero⟩
  have hneg : z < 0 := by
    have hcompare := (horder .sub).symm.trans (ordering_of_canSubtract hl hr hrange .sub)
    rw [Except.ok.injEq, compare_lt_iff_lt.mpr hlt, compare_lt_iff_lt] at hcompare
    exact hcompare
  exact ⟨hl, hr, hrange, v, z, hsub, hz, hneg, mt hzero.mpr hneg.ne⟩

/-- A literal whose first digit has no place in the range of scales, from which nothing can
be subtracted. -/
theorem sub_of_widest_trapped :
    Decimal.ofChars "1e9223372036854775808".toList = .ok ⟨1, -9223372036854775808⟩ ∧
      (Value.decimal ⟨1, -9223372036854775808⟩).apply .sub (.integer 1) = .error .trap ∧
      ¬ exists v, (Value.decimal ⟨1, -9223372036854775808⟩).apply .sub (.integer 1) = .ok v := by
  have htrap : (Value.decimal ⟨1, -9223372036854775808⟩).apply .sub (.integer 1) =
      .error .trap := by
    decide +kernel
  refine ⟨by decide +kernel, htrap, ?_⟩
  rintro ⟨v, hv⟩
  rw [htrap] at hv
  cases hv

end Value
end Reckon
