import Reckon.Expr.Evaluation

/-!
# How deep evaluation goes

Evaluation enters the nodes of an expression one after the other, and leaves each of
them when all below it has been evaluated. Without a limit it fails at the first
subexpression that has no value. With a limit it fails there as well, unless it
enters a node below the deepest level first. So a higher limit turns some failures
for depth into something else, and changes nothing besides.
-/

namespace Reckon
namespace Expr

/-!
## Evaluation without a limit
-/

/-- The value of an expression, however deep it is: operands from left to right, then
their operator. -/
def value : Expr -> Except EvalError Value
  | .literal v => .ok v
  | .step op operand =>
      match operand.value with
      | .ok v => v.applyStep op
      | .error x => .error x
  | .binary op left right =>
      match left.value with
      | .error x => .error x
      | .ok l =>
          match right.value with
          | .ok r => l.apply op r
          | .error x => .error x

theorem evaluateAt_eq_value {limit level : Nat} {e : Expr}
    (h : level + e.height ≤ limit) : e.evaluateAt limit level = e.value := by
  have hlevel : ¬ limit < level := Nat.not_lt.mpr (Nat.le_of_add_right_le h)
  induction e generalizing level with
  | literal v => rw [evaluateAt, if_neg hlevel, value]
  | step op operand ih =>
      rw [height, ← Nat.add_assoc, Nat.add_right_comm] at h
      have hnext := Nat.not_lt.mpr (Nat.le_of_add_right_le h)
      rw [evaluateAt, if_neg hlevel, ih h hnext]
      rfl
  | binary op left right ihl ihr =>
      rw [height, ← Nat.add_assoc, Nat.add_right_comm] at h
      have hl := Nat.le_trans (Nat.add_le_add_left (Nat.le_max_left _ _) _) h
      have hr := Nat.le_trans (Nat.add_le_add_left (Nat.le_max_right _ _) _) h
      have hnext := Nat.not_lt.mpr (Nat.le_of_add_right_le h)
      rw [evaluateAt, if_neg hlevel, ihl hl hnext, ihr hr hnext]
      rfl

/-!
## The order of evaluation
-/

/-- A step on the way through an expression. -/
inductive Visit where
  /-- A node that stands at a level is entered. -/
  | enter (level : Nat)
  /-- All of a subexpression has been visited. -/
  | leave (e : Expr)

/-- The way through an expression that stands at a level, from left to right. -/
def visits (level : Nat) : Expr -> List Visit
  | .literal v => [.enter level, .leave (.literal v)]
  | .step op operand =>
      .enter level :: operand.visits (level + 1) ++ [.leave (.step op operand)]
  | .binary op left right =>
      .enter level :: left.visits (level + 1) ++ right.visits (level + 1) ++
        [.leave (.binary op left right)]

namespace Visit

/-- Whether no node is entered that stands deeper than the limit. -/
def isWithin (limit : Nat) : Visit -> Bool
  | .enter level => level ≤ limit
  | .leave _ => true

/-- The subexpression that is left. -/
def left? : Visit -> Option Expr
  | .enter _ => none
  | .leave e => some e

/-- What makes evaluation fail at a visit. -/
def failure? (limit : Nat) : Visit -> Option EvalError
  | .enter level => if limit < level then some (.tooDeep limit) else none
  | .leave e =>
      match e.value with
      | .ok _ => none
      | .error x => some x

theorem failure?_leave_eq_none_iff {limit : Nat} {e : Expr} :
    (leave e).failure? limit = none <-> exists v, e.value = .ok v := by
  rw [failure?]
  cases e.value with
  | ok v => simp
  | error x => simp

theorem failure?_leave_eq_some_iff {limit : Nat} {e : Expr} {x : EvalError} :
    (leave e).failure? limit = some x <-> e.value = .error x := by
  rw [failure?]
  cases e.value with
  | ok v => simp
  | error y => simp

theorem isWithin_of_failure? {limit : Nat} {visit : Visit}
    (h : visit.failure? limit = none) : visit.isWithin limit = true := by
  cases visit with
  | enter level =>
      rw [failure?] at h
      split at h
      · cases h
      · next hlevel => exact decide_eq_true (Nat.le_of_not_lt hlevel)
  | leave e => rfl

theorem failure?_eq_none_of_le {limit limit' : Nat} (hle : limit ≤ limit') {visit : Visit}
    (h : visit.failure? limit = none) : visit.failure? limit' = none := by
  cases visit with
  | enter level =>
      have hlevel : level ≤ limit := of_decide_eq_true (isWithin_of_failure? h)
      rw [failure?, if_neg (Nat.not_lt.mpr (Nat.le_trans hlevel hle))]
  | leave e => exact h

end Visit

/-- The subexpressions that are visited in full before the first node that stands
deeper than the limit, in the order in which they are left. -/
def completed (limit : Nat) (e : Expr) : List Expr :=
  ((e.visits 0).takeWhile (Visit.isWithin limit)).filterMap Visit.left?

theorem leave_mem_visits (level : Nat) (e : Expr) : .leave e ∈ e.visits level := by
  cases e <;> simp [visits]

theorem exists_not_isWithin {limit level : Nat} {e : Expr} (h : limit < level + e.height) :
    exists visit, visit ∈ e.visits level ∧ visit.isWithin limit = false := by
  -- A path that is too long for the limit leads to a node below it.
  induction e generalizing level with
  | literal v => exact ⟨.enter level, List.mem_cons_self, decide_eq_false (Nat.not_le.mpr h)⟩
  | step op operand ih =>
      rw [height, ← Nat.add_assoc, Nat.add_right_comm] at h
      rcases ih h with ⟨visit, hvisit, hbelow⟩
      exact ⟨visit, by simp [visits, hvisit], hbelow⟩
  | binary op left right ihl ihr =>
      rw [height, ← Nat.add_assoc, Nat.add_right_comm] at h
      rcases Nat.le_total left.height right.height with hle | hle
      · rw [Nat.max_eq_right hle] at h
        rcases ihr h with ⟨visit, hvisit, hbelow⟩
        exact ⟨visit, by simp [visits, hvisit], hbelow⟩
      · rw [Nat.max_eq_left hle] at h
        rcases ihl h with ⟨visit, hvisit, hbelow⟩
        exact ⟨visit, by simp [visits, hvisit], hbelow⟩

/-!
## The first failure
-/

theorem exists_value_of_findSome? {limit level : Nat} {e : Expr}
    (h : (e.visits level).findSome? (Visit.failure? limit) = none) :
    exists v, e.value = .ok v :=
  Visit.failure?_leave_eq_none_iff.mp
    (List.findSome?_eq_none_iff.mp h _ (leave_mem_visits level e))

theorem settle_leave (limit : Nat) (e : Expr) :
    e.value =
      match [Visit.leave e].findSome? (Visit.failure? limit) with
      | some x => .error x
      | none => e.value := by
  -- What is left last makes no difference to what comes of an expression.
  rw [List.findSome?_singleton]
  cases h : (Visit.leave e).failure? limit with
  | none => rfl
  | some x => exact Visit.failure?_leave_eq_some_iff.mp h

/-- What evaluation comes to is the first failure on the way, or else the value. -/
theorem evaluateAt_eq (limit level : Nat) (e : Expr) :
    e.evaluateAt limit level =
      match (e.visits level).findSome? (Visit.failure? limit) with
      | some x => .error x
      | none => e.value := by
  induction e generalizing level with
  | literal v =>
      rw [evaluateAt, visits, List.findSome?_cons, Visit.failure?]
      split
      · rfl
      · rfl
  | step op operand ih =>
      rw [evaluateAt, visits, List.cons_append, List.findSome?_cons, Visit.failure?]
      split
      · rfl
      · dsimp only
        rw [ih, List.findSome?_append]
        cases hoperand : (operand.visits (level + 1)).findSome? (Visit.failure? limit) with
        | some x => rfl
        | none =>
            rw [Option.none_or, ← settle_leave]
            rfl
  | binary op left right ihl ihr =>
      rw [evaluateAt, visits, List.cons_append, List.cons_append, List.findSome?_cons,
        Visit.failure?]
      split
      · rfl
      · dsimp only
        rw [ihl, ihr, List.findSome?_append, List.findSome?_append]
        cases hleft : (left.visits (level + 1)).findSome? (Visit.failure? limit) with
        | some x => rfl
        | none =>
            rcases exists_value_of_findSome? hleft with ⟨l, hl⟩
            rw [Option.none_or]
            cases hright : (right.visits (level + 1)).findSome? (Visit.failure? limit) with
            | some x =>
                dsimp only
                rw [hl]
                rfl
            | none =>
                rw [Option.none_or, ← settle_leave]
                rfl

/-!
## A limit beside none
-/

theorem exists_value_of_left? {limit : Nat} {visits : List Visit}
    (h : forall visit, visit ∈ visits -> visit.failure? limit = none) :
    forall t, t ∈ visits.filterMap Visit.left? -> exists v, t.value = .ok v := by
  rw [List.forall_mem_filterMap]
  intro visit hvisit t ht
  cases visit with
  | enter level => cases ht
  | leave e =>
      cases ht
      exact Visit.failure?_leave_eq_none_iff.mp (h (.leave t) hvisit)

/-- Evaluation that a limit cuts short fails for depth if all subexpressions that it
completes before have values, and else like the first of them that has none. -/
theorem evaluate_of_limit_lt {limit : Nat} {e : Expr} (h : limit < e.height) :
    (e.evaluate limit = .error (.tooDeep limit) ∧
        forall t, t ∈ e.completed limit -> exists v, t.value = .ok v) ∨
      exists before t after x, e.completed limit = before ++ t :: after ∧
        (forall u, u ∈ before -> exists v, u.value = .ok v) ∧
        t.value = .error x ∧ e.evaluate limit = .error x := by
  cases hfound : (e.visits 0).findSome? (Visit.failure? limit) with
  | none =>
      have hdeep : limit < 0 + e.height := Nat.lt_add_left 0 h
      rcases exists_not_isWithin hdeep with ⟨visit, hvisit, hbelow⟩
      have hnone := List.findSome?_eq_none_iff.mp hfound visit hvisit
      rw [Visit.isWithin_of_failure? hnone] at hbelow
      cases hbelow
  | some x =>
      have hresult : e.evaluate limit = .error x := by
        rw [evaluate, evaluateAt_eq, hfound]
      rcases List.findSome?_eq_some_iff.mp hfound with
        ⟨before, visit, after, hvisits, hvisit, hbefore⟩
      have hwithin : forall other, other ∈ before -> other.isWithin limit = true :=
        fun other hother => Visit.isWithin_of_failure? (hbefore other hother)
      have hcompleted : e.completed limit = before.filterMap Visit.left? ++
          ((visit :: after).takeWhile (Visit.isWithin limit)).filterMap Visit.left? := by
        rw [completed, hvisits, List.takeWhile_append_of_pos hwithin, List.filterMap_append]
      cases visit with
      | enter level =>
          rw [Visit.failure?] at hvisit
          split at hvisit
          · next hbelow =>
              cases hvisit
              have hstop : ¬ (Visit.enter level).isWithin limit = true := by
                simpa [Visit.isWithin] using hbelow
              rw [List.takeWhile_cons_of_neg hstop, List.filterMap_nil,
                List.append_nil] at hcompleted
              rw [hcompleted]
              exact Or.inl ⟨hresult, exists_value_of_left? hbefore⟩
          · cases hvisit
      | leave t =>
          rw [List.takeWhile_cons_of_pos rfl] at hcompleted
          exact Or.inr ⟨_, t, _, x, hcompleted, exists_value_of_left? hbefore,
            Visit.failure?_leave_eq_some_iff.mp hvisit, hresult⟩

theorem evaluate_of_le {limit limit' : Nat} {e : Expr} (hle : limit ≤ limit')
    (h : e.evaluate limit ≠ .error (.tooDeep limit)) :
    e.evaluate limit' = e.evaluate limit := by
  rw [evaluate, evaluateAt_eq] at h
  rw [evaluate, evaluate, evaluateAt_eq, evaluateAt_eq]
  cases hfound : (e.visits 0).findSome? (Visit.failure? limit) with
  | none =>
      have hnone : (e.visits 0).findSome? (Visit.failure? limit') = none := by
        apply List.findSome?_eq_none_iff.mpr
        intro visit hvisit
        exact Visit.failure?_eq_none_of_le hle
          (List.findSome?_eq_none_iff.mp hfound visit hvisit)
      rw [hnone]
  | some x =>
      rw [hfound] at h
      rcases List.findSome?_eq_some_iff.mp hfound with
        ⟨before, visit, after, hvisits, hvisit, hbefore⟩
      have hsome : (e.visits 0).findSome? (Visit.failure? limit') = some x := by
        apply List.findSome?_eq_some_iff.mpr
        refine ⟨before, visit, after, hvisits, ?_, ?_⟩
        · cases visit with
          | enter level =>
              rw [Visit.failure?] at hvisit
              split at hvisit
              · cases hvisit
                exact absurd rfl h
              · cases hvisit
          | leave t => exact hvisit
        · intro other hother
          exact Visit.failure?_eq_none_of_le hle (hbefore other hother)
      rw [hsome]

/-- Evaluation under a limit and without one agree on every expression that is not
higher than the limit, and have values in common for no others. What a limit cuts
short fails for depth, or like the first subexpression without a value that was
completed before. So a higher limit changes no other outcome. -/
theorem evaluate_refines_value (limit : Nat) (e : Expr) :
    (forall v, e.evaluate limit = .ok v <-> e.height ≤ limit ∧ e.value = .ok v) ∧
      (e.height ≤ limit -> e.evaluate limit = e.value) ∧
      (limit < e.height ->
        (e.evaluate limit = .error (.tooDeep limit) ∧
            forall t, t ∈ e.completed limit -> exists v, t.value = .ok v) ∨
          exists before t after x, e.completed limit = before ++ t :: after ∧
            (forall u, u ∈ before -> exists v, u.value = .ok v) ∧
            t.value = .error x ∧ e.evaluate limit = .error x) ∧
      forall limit', limit ≤ limit' -> e.evaluate limit ≠ .error (.tooDeep limit) ->
        e.evaluate limit' = e.evaluate limit := by
  have hwithin : e.height ≤ limit -> e.evaluate limit = e.value := by
    intro hheight
    apply evaluateAt_eq_value
    rw [Nat.zero_add]
    exact hheight
  refine ⟨?_, hwithin, evaluate_of_limit_lt, fun _ => evaluate_of_le⟩
  intro v
  constructor
  · intro hv
    have hheight : e.height ≤ limit := by
      apply Nat.le_of_not_lt
      intro hlt
      rcases evaluate_of_limit_lt hlt with ⟨hdeep, -⟩ | ⟨_, _, _, _, -, -, -, herror⟩
      · rw [hdeep] at hv
        cases hv
      · rw [herror] at hv
        cases hv
    rw [hwithin hheight] at hv
    exact ⟨hheight, hv⟩
  · rintro ⟨hheight, hv⟩
    rw [hwithin hheight, hv]

-- What is left of an operator fails before anything to its right is too deep.
example :
    let one : Expr := .literal (.integer 1)
    let deep : Expr := .step .increment (.step .increment one)
    let failing : Expr := .binary .div one (.literal (.integer 0))
    (binary .add failing deep).evaluate 2 = .error .divisionByZero ∧
      (binary .add deep failing).evaluate 2 = .error (.tooDeep 2) :=
  ⟨rfl, rfl⟩

end Expr
end Reckon
