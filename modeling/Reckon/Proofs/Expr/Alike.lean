import Reckon.Proofs.Expr.Extent
import Reckon.Proofs.Value.Alike

/-!
# Expressions that stand for the same

How the decimals of an expression are written does not matter to what it evaluates to,
as long as nothing is divided or raised to a power. The operators look at the digits and
the scales of decimals, but each result depends on the numbers alone, and so do the
operators that are applied to it in turn. What can depend on how a decimal is written is
whether its scale stays in the range of scales, so that nothing traps.
-/

namespace Reckon
namespace Expr

/-- The binary operators of the expression, from left to right. -/
def operators : Expr -> List BinaryOp
  | .literal _ => []
  | .step _ operand => operand.operators
  | .binary op left right => left.operators ++ op :: right.operators

/-- Expressions of one shape whose literals are alike. -/
inductive Alike : Expr -> Expr -> Prop where
  | literal {v w : Value} : v.Alike w -> Alike (.literal v) (.literal w)
  | step (op : StepOp) {operand operand' : Expr} :
      Alike operand operand' -> Alike (.step op operand) (.step op operand')
  | binary (op : BinaryOp) {left left' right right' : Expr} :
      Alike left left' -> Alike right right' ->
      Alike (.binary op left right) (.binary op left' right')

/-!
## One level
-/

section Levels

variable {limit level : Nat} (h : ¬ limit < level)

include h

theorem evaluateAt_step_of_le (op : StepOp) (operand : Expr) :
    (step op operand).evaluateAt limit level =
      (operand.evaluateAt limit (level + 1)).bind fun v => v.applyStep op := by
  rw [Expr.evaluateAt, if_neg h]
  cases operand.evaluateAt limit (level + 1) <;> rfl

theorem evaluateAt_binary_of_le (op : BinaryOp) (left right : Expr) :
    (binary op left right).evaluateAt limit level =
      (left.evaluateAt limit (level + 1)).bind fun l =>
        (right.evaluateAt limit (level + 1)).bind fun r => l.apply op r := by
  rw [Expr.evaluateAt, if_neg h]
  cases left.evaluateAt limit (level + 1) with
  | error _ => rfl
  | ok _ => cases right.evaluateAt limit (level + 1) <;> rfl

end Levels

theorem alikeUnlessTrapped_bind {x y : Except EvalError Value}
    {f g : Value -> Except EvalError Value} (h : Value.AlikeUnlessTrapped x y)
    (hfg : forall v w, v.Alike w -> Value.AlikeUnlessTrapped (f v) (g w)) :
    Value.AlikeUnlessTrapped (x.bind f) (y.bind g) := by
  intro hx hy
  have hx' : x ≠ .error .trap := by
    rintro rfl
    exact hx rfl
  have hy' : y ≠ .error .trap := by
    rintro rfl
    exact hy rfl
  cases h hx' hy' with
  | error e => exact .error e
  | ok hvalues => exact hfg _ _ hvalues hx hy

theorem Alike.evaluateAt {e e' : Expr} (h : e.Alike e')
    (hops : BinaryOp.div ∉ e.operators ∧ BinaryOp.pow ∉ e.operators) (limit level : Nat) :
    Value.AlikeUnlessTrapped (e.evaluateAt limit level) (e'.evaluateAt limit level) := by
  induction h generalizing level with
  | literal hvalues =>
      rw [Expr.evaluateAt, Expr.evaluateAt]
      split
      · exact (Value.AlikeResults.error _).unlessTrapped
      · exact (Value.AlikeResults.ok hvalues).unlessTrapped
  | step op _ ih =>
      by_cases hlevel : limit < level
      · rw [Expr.evaluateAt, Expr.evaluateAt, if_pos hlevel, if_pos hlevel]
        exact (Value.AlikeResults.error _).unlessTrapped
      · rw [evaluateAt_step_of_le hlevel, evaluateAt_step_of_le hlevel]
        exact alikeUnlessTrapped_bind (ih hops (level + 1)) fun _ _ hvalues =>
          hvalues.applyStep op
  | binary op _ _ ihl ihr =>
      simp only [operators, List.mem_append, List.mem_cons, not_or] at hops
      rcases hops with ⟨⟨hdivl, hdiv, hdivr⟩, hpowl, hpow, hpowr⟩
      by_cases hlevel : limit < level
      · rw [Expr.evaluateAt, Expr.evaluateAt, if_pos hlevel, if_pos hlevel]
        exact (Value.AlikeResults.error _).unlessTrapped
      · rw [evaluateAt_binary_of_le hlevel, evaluateAt_binary_of_le hlevel]
        apply alikeUnlessTrapped_bind (ihl ⟨hdivl, hpowl⟩ (level + 1))
        intro l l' hleft
        apply alikeUnlessTrapped_bind (ihr ⟨hdivr, hpowr⟩ (level + 1))
        intro r r' hright
        exact hleft.apply hright ⟨Ne.symm hdiv, Ne.symm hpow⟩

/-- Expressions without divisions and powers that are the same apart from how their
decimals are written fail with the same error, or evaluate to values of one kind that
are the same, or decimals for the same number, and are shown with the same text, provided
that no scale leaves its range in either of them. None does if the literals are small enough
for the size of the expressions. -/
theorem evaluate_of_alike {e e' : Expr} (h : e.Alike e')
    (hops : BinaryOp.div ∉ e.operators ∧ BinaryOp.pow ∉ e.operators) (limit : Nat) :
    (e.IsModerate -> e'.IsModerate ->
        e.evaluate limit ≠ .error .trap ∧ e'.evaluate limit ≠ .error .trap) ∧
      (e.evaluate limit ≠ .error .trap -> e'.evaluate limit ≠ .error .trap ->
        (exists x, e.evaluate limit = .error x ∧ e'.evaluate limit = .error x) ∨
          exists v w, e.evaluate limit = .ok v ∧ e'.evaluate limit = .ok w ∧
            v.kind = w.kind ∧ v.Alike w ∧ v.text = w.text) := by
  constructor
  · exact fun hleft hright => ⟨evaluate_ne_trap hleft limit, evaluate_ne_trap hright limit⟩
  · intro hleft hright
    rcases (h.evaluateAt hops limit 0 hleft hright).error_or_ok with
      herror | ⟨v, w, hv, hw, hvalues⟩
    · exact .inl herror
    · exact .inr ⟨v, w, hv, hw, hvalues.kind_eq, hvalues, hvalues.text_eq⟩

/-- The sum of a product and a zero, with zeros behind the digits and without. -/
theorem evaluate_of_alike_of_zeros :
    let e : Expr := .step .increment (.binary .sub
      (.binary .mul (.literal (.decimal ⟨-25, 1⟩)) (.literal (.integer 3)))
      (.literal (.decimal ⟨0, 0⟩)))
    let e' : Expr := .step .increment (.binary .sub
      (.binary .mul (.literal (.decimal ⟨-2500, 3⟩)) (.literal (.integer 3)))
      (.literal (.decimal ⟨0, -7⟩)))
    e.Alike e' ∧ (BinaryOp.div ∉ e.operators ∧ BinaryOp.pow ∉ e.operators) ∧
      (e.IsModerate ∧ e'.IsModerate) ∧
      ((exists x, e.evaluate 9 = .error x ∧ e'.evaluate 9 = .error x) ∨
        exists v w, e.evaluate 9 = .ok v ∧ e'.evaluate 9 = .ok w ∧
          v.kind = w.kind ∧ v.Alike w ∧ v.text = w.text) := by
  intro e e'
  have hfactor : Decimal.toRat ⟨-25, 1⟩ = Decimal.toRat ⟨-2500, 3⟩ := by
    norm_num [Decimal.toRat]
  have hzero : Decimal.toRat ⟨0, 0⟩ = Decimal.toRat ⟨0, -7⟩ := by
    norm_num [Decimal.toRat]
  have halike : e.Alike e' :=
    .step _ (.binary _ (.binary _ (.literal (.decimal hfactor)) (.literal (.refl _)))
      (.literal (.decimal hzero)))
  have hops : BinaryOp.div ∉ e.operators ∧ BinaryOp.pow ∉ e.operators := by decide
  have hmoderate : e.IsModerate := ⟨8, by decide +kernel, by decide⟩
  have hmoderate' : e'.IsModerate := ⟨8, by decide +kernel, by decide⟩
  rcases evaluate_of_alike halike hops 9 with ⟨hrange, hresults⟩
  rcases hrange hmoderate hmoderate' with ⟨hleft, hright⟩
  exact ⟨halike, hops, ⟨hmoderate, hmoderate'⟩, hresults hleft hright⟩

end Expr
end Reckon
