import Reckon.Proofs.Decimal.Cohort
import Reckon.Proofs.Decimal.Scales
import Reckon.Value.Apply
import Reckon.Value.Text

/-!
# Values that stand for the same

Two decimals for one number are the same value to whoever computes with them: the
operators other than division and powers, the steps, the comparisons and the text that
is shown cannot tell them apart, unless the one traps where the other does not.
-/

namespace Reckon
namespace Value

/-- Values that are the same, apart from how a decimal is written. -/
inductive Alike : Value -> Value -> Prop where
  | decimal {a b : Decimal} : a.toRat = b.toRat -> Alike (.decimal a) (.decimal b)
  | refl (v : Value) : Alike v v

/-- Results that are the same error, or values that are alike. -/
inductive AlikeResults : Except EvalError Value -> Except EvalError Value -> Prop where
  | error (e : EvalError) : AlikeResults (.error e) (.error e)
  | ok {v w : Value} : v.Alike w -> AlikeResults (.ok v) (.ok w)

theorem AlikeResults.refl (result : Except EvalError Value) : AlikeResults result result := by
  cases result with
  | error e => exact .error e
  | ok v => exact .ok (.refl v)

theorem AlikeResults.error_or_ok {x y : Except EvalError Value} (h : AlikeResults x y) :
    (exists e, x = .error e ∧ y = .error e) ∨
      exists v w, x = .ok v ∧ y = .ok w ∧ v.Alike w := by
  cases h with
  | error e => exact .inl ⟨e, rfl, rfl⟩
  | ok hvalues => exact .inr ⟨_, _, rfl, rfl, hvalues⟩

/-- Results that are alike if neither of them is a trap. -/
def AlikeUnlessTrapped (x y : Except EvalError Value) : Prop :=
  x ≠ .error .trap -> y ≠ .error .trap -> AlikeResults x y

theorem AlikeResults.unlessTrapped {x y : Except EvalError Value} (h : AlikeResults x y) :
    AlikeUnlessTrapped x y :=
  fun _ _ => h

/-!
## What is seen of a value
-/

section Alike

variable {v w l r l' r' : Value}

theorem Alike.kind_eq (h : v.Alike w) : v.kind = w.kind := by
  cases h with
  | decimal _ => rfl
  | refl _ => rfl

theorem Alike.text_eq (h : v.Alike w) : v.text = w.text := by
  cases h with
  | decimal hnumber =>
      rw [text, chars, Decimal.chars_congr hnumber]
      rfl
  | refl _ => rfl

theorem Alike.unsupported_eq (hl : l.Alike l') (hr : r.Alike r') (op : BinaryOp) :
    unsupported op l r = unsupported op l' r' := by
  rw [unsupported, unsupported, hl.kind_eq, hr.kind_eq]

/-!
## Operators on numbers

Where a decimal stands on either side, operators look at the decimals that both operands
are taken as.
-/

theorem Alike.eq_or_decimal (hl : l.Alike l') (hr : r.Alike r') :
    (l = l' ∧ r = r') ∨ ((l.kind = .decimal ∨ r.kind = .decimal) ∧
      (l'.kind = .decimal ∨ r'.kind = .decimal)) := by
  cases hl with
  | decimal _ => exact .inr ⟨.inl rfl, .inl rfl⟩
  | refl _ =>
      cases hr with
      | decimal _ => exact .inr ⟨.inr rfl, .inr rfl⟩
      | refl _ => exact .inl ⟨rfl, rfl⟩

theorem Alike.asDecimal? (h : v.Alike w) :
    (exists a b, v.asDecimal? = some a ∧ w.asDecimal? = some b ∧ a.toRat = b.toRat) ∨
      (v.asDecimal? = none ∧ w.asDecimal? = none) := by
  cases h with
  | decimal hnumber => exact .inl ⟨_, _, rfl, rfl, hnumber⟩
  | refl _ =>
      cases hdecimal : v.asDecimal? with
      | none => exact .inr ⟨rfl, rfl⟩
      | some a => exact .inl ⟨a, a, rfl, rfl, rfl⟩

theorem Alike.promote (hl : l.Alike l') (hr : r.Alike r') (op : BinaryOp) :
    (exists a b a' b', promote op l r = .ok (a, b) ∧ promote op l' r' = .ok (a', b') ∧
      a.toRat = a'.toRat ∧ b.toRat = b'.toRat) ∨
      exists e, promote op l r = .error e ∧ promote op l' r' = .error e := by
  unfold Value.promote
  rcases hl.asDecimal? with ⟨a, a', ha, ha', hleft⟩ | ⟨ha, ha'⟩
  · rcases hr.asDecimal? with ⟨b, b', hb, hb', hright⟩ | ⟨hb, hb'⟩
    · rw [ha, ha', hb, hb']
      exact .inl ⟨a, b, a', b', rfl, rfl, hleft, hright⟩
    · rw [ha, ha', hb, hb', hl.unsupported_eq hr]
      exact .inr ⟨_, rfl, rfl⟩
  · rw [ha, ha', hl.unsupported_eq hr]
    exact .inr ⟨_, rfl, rfl⟩

/-- The result of an operation on the decimals that both operands are taken as. -/
def onDecimals (op : BinaryOp) (f : Decimal -> Decimal -> Option Decimal) (l r : Value) :
    Except EvalError Value :=
  match promote op l r with
  | .ok (a, b) => decimalResult (f a b)
  | .error e => .error e

theorem add_eq_onDecimals (h : l.kind = .decimal ∨ r.kind = .decimal) (op : BinaryOp) :
    add op l r = onDecimals op Decimal.sum? l r := by
  unfold add
  split
  · simp [kind] at h
  · simp [kind] at h
  · simp [kind] at h
  · rfl

theorem sub_eq_onDecimals (h : l.kind = .decimal ∨ r.kind = .decimal) (op : BinaryOp) :
    sub op l r = onDecimals op (fun a b => a.sum? (-b)) l r := by
  unfold sub
  split
  · simp [kind] at h
  · simp [kind] at h
  · rfl

theorem mul_eq_onDecimals (h : l.kind = .decimal ∨ r.kind = .decimal) (op : BinaryOp) :
    mul op l r = onDecimals op Decimal.mul? l r := by
  unfold mul
  split
  · simp [kind] at h
  · rfl

theorem alikeUnlessTrapped_decimalResult {d? d?' : Option Decimal}
    (h : forall d d', d? = some d -> d?' = some d' -> d.toRat = d'.toRat) :
    AlikeUnlessTrapped (decimalResult d?) (decimalResult d?') := by
  intro hleft hright
  cases d? with
  | none => exact absurd rfl hleft
  | some d =>
      cases d?' with
      | none => exact absurd rfl hright
      | some d' => exact .ok (.decimal (h d d' rfl rfl))

theorem alikeUnlessTrapped_of_onDecimals {op : BinaryOp}
    {f : Decimal -> Decimal -> Option Decimal}
    {operator : Value -> Value -> Except EvalError Value}
    (hoperator : forall {l r : Value}, l.kind = .decimal ∨ r.kind = .decimal ->
      operator l r = onDecimals op f l r)
    (hnumber : forall {a a' b b' d d' : Decimal}, a.toRat = a'.toRat -> b.toRat = b'.toRat ->
      f a b = some d -> f a' b' = some d' -> d.toRat = d'.toRat)
    (hl : l.Alike l') (hr : r.Alike r') :
    AlikeUnlessTrapped (operator l r) (operator l' r') := by
  rcases hl.eq_or_decimal hr with ⟨rfl, rfl⟩ | ⟨hdecimal, hdecimal'⟩
  · exact (AlikeResults.refl _).unlessTrapped
  · rw [hoperator hdecimal, hoperator hdecimal', onDecimals, onDecimals]
    rcases hl.promote hr op with ⟨a, b, a', b', hleft, hright, ha, hb⟩ | ⟨e, hleft, hright⟩
    · rw [hleft, hright]
      exact alikeUnlessTrapped_decimalResult fun _ _ => hnumber ha hb
    · rw [hleft, hright]
      exact (AlikeResults.error e).unlessTrapped

theorem toRat_sum?_congr {a a' b b' d d' : Decimal} (ha : a.toRat = a'.toRat)
    (hb : b.toRat = b'.toRat) (h : a.sum? b = some d) (h' : a'.sum? b' = some d') :
    d.toRat = d'.toRat := by
  rw [← (Decimal.sum?_eq_some_iff.mp h).right, ← (Decimal.sum?_eq_some_iff.mp h').right]
  exact Decimal.toRat_sum_congr ha hb

theorem Alike.add (hl : l.Alike l') (hr : r.Alike r') (op : BinaryOp) :
    AlikeUnlessTrapped (add op l r) (add op l' r') :=
  alikeUnlessTrapped_of_onDecimals (fun h => add_eq_onDecimals h op) toRat_sum?_congr hl hr

theorem Alike.sub (hl : l.Alike l') (hr : r.Alike r') (op : BinaryOp) :
    AlikeUnlessTrapped (sub op l r) (sub op l' r') := by
  apply alikeUnlessTrapped_of_onDecimals (fun h => sub_eq_onDecimals h op) _ hl hr
  intro a a' b b' d d' ha hb
  apply toRat_sum?_congr ha
  rw [Decimal.toRat_neg, Decimal.toRat_neg, hb]

theorem Alike.mul (hl : l.Alike l') (hr : r.Alike r') (op : BinaryOp) :
    AlikeUnlessTrapped (mul op l r) (mul op l' r') := by
  apply alikeUnlessTrapped_of_onDecimals (fun h => mul_eq_onDecimals h op) _ hl hr
  intro a a' b b' d d' ha hb h h'
  rw [← (Decimal.mul?_eq_some_iff.mp h).right, ← (Decimal.mul?_eq_some_iff.mp h').right,
    Decimal.toRat_mul, Decimal.toRat_mul, ha, hb]

/-!
## Comparisons
-/

theorem ordering_of_decimal (h : l.kind = .decimal ∨ r.kind = .decimal) (op : BinaryOp) :
    ordering op l r =
      match promote op l r with
      | .ok (a, b) => orderResult (a.compare? b)
      | .error e => .error e := by
  unfold ordering
  dsimp only
  split
  · simp [kind] at h
  · simp [kind] at h
  · simp [kind] at h
  · simp [kind] at h
  · rfl

theorem orderResult_congr {a a' b b' : Decimal} (ha : a.toRat = a'.toRat)
    (hb : b.toRat = b'.toRat) (h : orderResult (a.compare? b) ≠ .error .trap)
    (h' : orderResult (a'.compare? b') ≠ .error .trap) :
    orderResult (a.compare? b) = orderResult (a'.compare? b') := by
  cases horder : a.compare? b with
  | none => exact absurd (congrArg orderResult horder) h
  | some order =>
      cases horder' : a'.compare? b' with
      | none => exact absurd (congrArg orderResult horder') h'
      | some order' =>
          rw [← (Decimal.compare?_eq_some_iff.mp horder).right,
            ← (Decimal.compare?_eq_some_iff.mp horder').right, Decimal.compare_eq_cmp,
            Decimal.compare_eq_cmp, ha, hb]

theorem Alike.ordering_eq (hl : l.Alike l') (hr : r.Alike r') (op : BinaryOp)
    (h : ordering op l r ≠ .error .trap) (h' : ordering op l' r' ≠ .error .trap) :
    ordering op l r = ordering op l' r' := by
  rcases hl.eq_or_decimal hr with ⟨rfl, rfl⟩ | ⟨hdecimal, hdecimal'⟩
  · rfl
  · rw [ordering_of_decimal hdecimal] at h ⊢
    rw [ordering_of_decimal hdecimal'] at h' ⊢
    rcases hl.promote hr op with ⟨a, b, a', b', hleft, hright, ha, hb⟩ | ⟨e, hleft, hright⟩
    · rw [hleft] at h ⊢
      rw [hright] at h' ⊢
      exact orderResult_congr ha hb h h'
    · rw [hleft, hright]

theorem ordering_ne_trap {op : BinaryOp} (h : comparison op l r ≠ .error .trap) :
    ordering op l r ≠ .error .trap := by
  intro htrap
  rw [comparison, htrap] at h
  exact h rfl

theorem Alike.comparison (hl : l.Alike l') (hr : r.Alike r') (op : BinaryOp) :
    AlikeUnlessTrapped (comparison op l r) (comparison op l' r') := by
  intro h h'
  have horder := hl.ordering_eq hr op (ordering_ne_trap h) (ordering_ne_trap h')
  rw [Value.comparison, Value.comparison, horder, hl.unsupported_eq hr]
  exact .refl _

/-!
## Operators that apply to no decimal
-/

theorem bitwise_of_decimal (h : l.kind = .decimal ∨ r.kind = .decimal) (op : BinaryOp) :
    bitwise op l r = .error (unsupported op l r) := by
  unfold bitwise
  split
  · simp [kind] at h
  · rfl

theorem logical_of_decimal (h : l.kind = .decimal ∨ r.kind = .decimal) (op : BinaryOp) :
    logical op l r = .error (unsupported op l r) := by
  unfold logical
  split
  · simp [kind] at h
  · simp [kind] at h
  · rfl

theorem Alike.eq_of_unsupported {op : BinaryOp}
    {operator : Value -> Value -> Except EvalError Value}
    (hoperator : forall {l r : Value}, l.kind = .decimal ∨ r.kind = .decimal ->
      operator l r = .error (unsupported op l r))
    (hl : l.Alike l') (hr : r.Alike r') : operator l r = operator l' r' := by
  rcases hl.eq_or_decimal hr with ⟨rfl, rfl⟩ | ⟨hdecimal, hdecimal'⟩
  · rfl
  · rw [hoperator hdecimal, hoperator hdecimal', hl.unsupported_eq hr]

theorem Alike.bitwise_eq (hl : l.Alike l') (hr : r.Alike r') (op : BinaryOp) :
    bitwise op l r = bitwise op l' r' :=
  hl.eq_of_unsupported (fun h => bitwise_of_decimal h op) hr

theorem Alike.logical_eq (hl : l.Alike l') (hr : r.Alike r') (op : BinaryOp) :
    logical op l r = logical op l' r' :=
  hl.eq_of_unsupported (fun h => logical_of_decimal h op) hr

/-!
## Every operator and step
-/

/-- No operator but a division or a power can tell alike operands apart. -/
theorem Alike.apply (hl : l.Alike l') (hr : r.Alike r') {op : BinaryOp}
    (hop : op ≠ .div ∧ op ≠ .pow) : AlikeUnlessTrapped (l.apply op r) (l'.apply op r') := by
  unfold Value.apply
  rw [hl.kind_eq, hl.unsupported_eq hr]
  split
  · cases op with
    | add => exact hl.add hr .add
    | sub => exact hl.sub hr .sub
    | mul => exact hl.mul hr .mul
    | div => exact absurd rfl hop.left
    | pow => exact absurd rfl hop.right
    | bitAnd | bitOr | bitXor | shiftLeft | shiftRight =>
        rw [perform, perform, hl.bitwise_eq hr]
        exact (AlikeResults.refl _).unlessTrapped
    | and | or =>
        rw [perform, perform, hl.logical_eq hr]
        exact (AlikeResults.refl _).unlessTrapped
    | eq | ne | lt | le | gt | ge => exact hl.comparison hr _
  · exact (AlikeResults.error _).unlessTrapped

theorem Alike.applyStep (h : v.Alike w) (op : StepOp) :
    AlikeUnlessTrapped (v.applyStep op) (w.applyStep op) := by
  cases h with
  | decimal hnumber =>
      exact alikeUnlessTrapped_decimalResult fun _ _ => toRat_sum?_congr hnumber rfl
  | refl _ => exact (AlikeResults.refl _).unlessTrapped

end Alike

end Value
end Reckon
