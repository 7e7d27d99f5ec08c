import Reckon.Proofs.Expr.Reading

/-!
# Chains and their trees

A chain is a row of operands with binary operators between them. Its tree is
laid down here without regard to how it is assembled: the root is the first of
the operators that bind least tightly, and what stands on either side of it is a
chain of its own. Assembling the tree from the right by grafting comes to the
same.
-/

namespace Reckon

/-- An operator of a chain and the operand behind it. -/
abbrev Link := BinaryOp × Value

namespace Expr

/-!
## The tree of a chain
-/

/-- An operand, with the step behind it if there is one. -/
def ofOperand (post : Option StepOp) (v : Value) : Expr :=
  match post with
  | none => .literal v
  | some op => .step op (.literal v)

/-- Whether some link of a chain binds less tightly than a given one. -/
def hasWeaker (links : List Link) (link : Link) : Bool :=
  links.any fun other => other.1.precedence < link.1.precedence

/-- The tree of a chain, the step belonging to the last operand. The root is the
first operator that has no weaker one beside it. -/
def ofChain (post : Option StepOp) (first : Value) (links : List Link) : Expr :=
  match h : links.dropWhile (hasWeaker links) with
  | [] => ofOperand post first
  | (op, v) :: right =>
      have hlength :
          (links.takeWhile (hasWeaker links)).length + (right.length + 1) = links.length := by
        rw [← List.length_cons, ← h, ← List.length_append,
          List.takeWhile_append_dropWhile]
      .binary op (ofChain none first (links.takeWhile (hasWeaker links)))
        (ofChain post v right)
termination_by links.length

theorem ofChain_nil (post : Option StepOp) (first : Value) :
    ofChain post first [] = ofOperand post first := by
  rw [ofChain]
  rfl

/-- A link that binds less tightly than all before it, and at most as tightly as
all behind it. -/
structure SplitsAt (links left : List Link) (link : Link) (right : List Link) : Prop where
  eq : links = left ++ link :: right
  lt : forall other, other ∈ left -> link.1.precedence < other.1.precedence
  le : forall other, other ∈ right -> link.1.precedence ≤ other.1.precedence

theorem SplitsAt.hasWeaker_left {links left right : List Link} {link : Link}
    (h : SplitsAt links left link right) {other : Link} (hother : other ∈ left) :
    hasWeaker links other = true := by
  rw [hasWeaker, List.any_eq_true]
  refine ⟨link, ?_, ?_⟩
  · rw [h.eq]
    exact List.mem_append_right left List.mem_cons_self
  · rw [decide_eq_true_eq]
    exact h.lt other hother

theorem SplitsAt.hasWeaker_self {links left right : List Link} {link : Link}
    (h : SplitsAt links left link right) : ¬ hasWeaker links link = true := by
  rw [hasWeaker, List.any_eq_true]
  rintro ⟨other, hother, hlt⟩
  rw [decide_eq_true_eq] at hlt
  rw [h.eq, List.mem_append, List.mem_cons] at hother
  rcases hother with hleft | rfl | hright
  · exact Nat.lt_asymm hlt (h.lt other hleft)
  · exact Nat.lt_irrefl _ hlt
  · exact Nat.not_lt.mpr (h.le other hright) hlt

theorem SplitsAt.ofChain_eq {links left right : List Link} {op : BinaryOp} {v : Value}
    (h : SplitsAt links left (op, v) right) (post : Option StepOp) (first : Value) :
    ofChain post first links =
      .binary op (ofChain none first left) (ofChain post v right) := by
  have hleft : forall other, other ∈ left -> hasWeaker links other = true :=
    fun _ hother => h.hasWeaker_left hother
  have htake : links.takeWhile (hasWeaker links) = left := by
    conv_lhs =>
      arg 2
      rw [h.eq]
    rw [List.takeWhile_append_of_pos hleft, List.takeWhile_cons_of_neg h.hasWeaker_self,
      List.append_nil]
  have hdrop : links.dropWhile (hasWeaker links) = (op, v) :: right := by
    conv_lhs =>
      arg 2
      rw [h.eq]
    rw [List.dropWhile_append_of_pos hleft, List.dropWhile_cons_of_neg h.hasWeaker_self]
  rw [ofChain]
  split
  · next hnil =>
      rw [hdrop] at hnil
      cases hnil
  · next hcons =>
      rw [hdrop] at hcons
      cases hcons
      show Expr.binary op (ofChain none first (links.takeWhile (hasWeaker links))) _ = _
      rw [htake]

theorem splitsAt_singleton (link : Link) : SplitsAt [link] [] link [] := by
  constructor
  · rfl
  · intro other hother
    cases hother
  · intro other hother
    cases hother

theorem SplitsAt.cons {links left right : List Link} {link first : Link}
    (h : SplitsAt links left link right) (hlt : link.1.precedence < first.1.precedence) :
    SplitsAt (first :: links) (first :: left) link right := by
  constructor
  · rw [h.eq]
    rfl
  · intro other hother
    rcases List.mem_cons.mp hother with rfl | hleft
    · exact hlt
    · exact h.lt other hleft
  · exact h.le

theorem SplitsAt.cons_le {links left right : List Link} {link first : Link}
    (h : SplitsAt links left link right) (hle : first.1.precedence ≤ link.1.precedence) :
    SplitsAt (first :: links) [] first links := by
  constructor
  · rfl
  · intro other hother
    cases hother
  · intro other hother
    rw [h.eq, List.mem_append, List.mem_cons] at hother
    rcases hother with hleft | rfl | hright
    · exact Nat.le_trans hle (Nat.le_of_lt (h.lt other hleft))
    · exact hle
    · exact Nat.le_trans hle (h.le other hright)

theorem exists_splitsAt {links : List Link} (h : links ≠ []) :
    exists left link right, SplitsAt links left link right := by
  induction links with
  | nil => exact absurd rfl h
  | cons first links ih =>
      by_cases hlinks : links = []
      · rw [hlinks]
        exact ⟨[], first, [], splitsAt_singleton first⟩
      · rcases ih hlinks with ⟨left, link, right, hsplit⟩
        by_cases hlt : link.1.precedence < first.1.precedence
        · exact ⟨first :: left, link, right, hsplit.cons hlt⟩
        · exact ⟨[], first, links, hsplit.cons_le (Nat.le_of_not_lt hlt)⟩

theorem graft_ofOperand (op : BinaryOp) (lhs : Expr) (post : Option StepOp) (v : Value) :
    graft op lhs (ofOperand post v) = .binary op lhs (ofOperand post v) := by
  cases post <;> rfl

/-- Putting an operand and an operator in front of a chain grafts them onto its
tree. -/
theorem ofChain_cons (post : Option StepOp) (first : Value) (op : BinaryOp) (v : Value)
    (links : List Link) :
    ofChain post first ((op, v) :: links) =
      graft op (.literal first) (ofChain post v links) := by
  -- Grafting goes down the left edge of the tree, that is, to the chain before the
  -- root, which carries no step.
  induction h : links.length using Nat.strongRecOn generalizing post links with
  | ind n ih =>
      by_cases hlinks : links = []
      · rw [hlinks, (splitsAt_singleton (op, v)).ofChain_eq, ofChain_nil, ofChain_nil,
          graft_ofOperand]
        rfl
      · rcases exists_splitsAt hlinks with ⟨left, ⟨root, w⟩, right, hsplit⟩
        have hleft : left.length < n := by
          rw [← h, hsplit.eq, List.length_append, List.length_cons]
          omega
        rw [hsplit.ofChain_eq, graft]
        by_cases hlt : root.precedence < op.precedence
        · have hcons : SplitsAt ((op, v) :: links) ((op, v) :: left) (root, w) right :=
            hsplit.cons hlt
          rw [if_pos hlt, hcons.ofChain_eq, ih left.length hleft none left rfl]
        · have hcons : SplitsAt ((op, v) :: links) [] (op, v) links :=
            hsplit.cons_le (Nat.le_of_not_lt hlt)
          rw [if_neg hlt, hcons.ofChain_eq, ofChain_nil, hsplit.ofChain_eq]
          rfl

/-!
## What a tree shows

Read from left to right a tree shows the chain that it was built from. Operators
stand below weaker ones, and below equal ones only on the right.
-/

inductive Symbol where
  | value (v : Value)
  | binary (op : BinaryOp)
  | step (op : StepOp)
  deriving DecidableEq, Repr

/-- What an expression shows from left to right. -/
def symbols : Expr -> List Symbol
  | .literal v => [.value v]
  | .step op operand => operand.symbols ++ [.step op]
  | .binary op left right => left.symbols ++ .binary op :: right.symbols

def chainSymbols (post : Option StepOp) (first : Value) (links : List Link) : List Symbol :=
  .value first :: links.flatMap (fun link => [.binary link.1, .value link.2]) ++
    post.toList.map .step

theorem symbols_graft (op : BinaryOp) (lhs rhs : Expr) :
    (graft op lhs rhs).symbols = lhs.symbols ++ .binary op :: rhs.symbols := by
  induction rhs with
  | literal _ => rfl
  | step _ _ _ => rfl
  | binary root left right ihl _ =>
      rw [graft]
      split
      · simp [symbols, ihl]
      · rfl

theorem symbols_ofChain (post : Option StepOp) (first : Value) (links : List Link) :
    (ofChain post first links).symbols = chainSymbols post first links := by
  induction links generalizing first with
  | nil =>
      rw [ofChain_nil]
      cases post <;> rfl
  | cons link links ih =>
      rcases link with ⟨op, v⟩
      rw [ofChain_cons, symbols_graft, ih]
      simp [symbols, chainSymbols]

def root? : Expr -> Option BinaryOp
  | .binary op _ _ => some op
  | _ => none

/-- Whether every operator binds less tightly than those at the root of its left
side, and at most as tightly as those at the root of its right side. -/
def Grouped : Expr -> Prop
  | .literal _ => True
  | .step _ operand => operand.Grouped
  | .binary op left right =>
      (forall root, left.root? = some root -> op.precedence < root.precedence) ∧
        (forall root, right.root? = some root -> op.precedence ≤ root.precedence) ∧
        left.Grouped ∧ right.Grouped

theorem root?_graft {op root : BinaryOp} {lhs rhs : Expr}
    (h : (graft op lhs rhs).root? = some root) : root = op ∨ rhs.root? = some root := by
  cases rhs with
  | literal _ =>
      cases h
      exact Or.inl rfl
  | step _ _ =>
      cases h
      exact Or.inl rfl
  | binary top left right =>
      rw [graft] at h
      split at h
      · cases h
        exact Or.inr rfl
      · cases h
        exact Or.inl rfl

theorem Grouped.binary_literal {rhs : Expr} (h : rhs.Grouped) {op : BinaryOp}
    (hle : forall top, rhs.root? = some top -> op.precedence ≤ top.precedence) (v : Value) :
    (Expr.binary op (.literal v) rhs).Grouped := by
  refine ⟨?_, hle, trivial, h⟩
  intro top htop
  cases htop

/-- Grafting an operand onto a tree keeps the tree grouped. -/
theorem Grouped.graft {rhs : Expr} (h : rhs.Grouped) (op : BinaryOp) (v : Value) :
    (Expr.graft op (.literal v) rhs).Grouped := by
  induction rhs with
  | literal _ =>
      apply h.binary_literal
      intro top htop
      cases htop
  | step _ _ _ =>
      apply h.binary_literal
      intro top htop
      cases htop
  | binary root left right ihl _ =>
      rw [Expr.graft]
      split
      · next hroot =>
          rcases h with ⟨hlt, hle, hleft, hright⟩
          refine ⟨?_, hle, ihl hleft, hright⟩
          intro top htop
          rcases root?_graft htop with rfl | hold
          · exact hroot
          · exact hlt top hold
      · next hroot =>
          apply h.binary_literal
          intro top htop
          cases htop
          exact Nat.le_of_not_lt hroot

theorem grouped_ofChain (post : Option StepOp) (first : Value) (links : List Link) :
    (ofChain post first links).Grouped := by
  induction links generalizing first with
  | nil =>
      rw [ofChain_nil]
      cases post <;> exact trivial
  | cons link links ih =>
      rw [ofChain_cons]
      exact (ih link.2).graft link.1 first

end Expr
end Reckon
