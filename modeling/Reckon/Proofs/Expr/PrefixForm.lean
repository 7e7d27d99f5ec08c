import Reckon.Expr.Text
import Reckon.Proofs.Value.Texts

/-!
# Expressions told by their texts

With operators in front and parentheses around, the text of an expression can be taken
apart in one way only. An operator goes on to the first blank, so that none is taken for
the beginning of another one, and behind a literal or a closing parenthesis the operand
ends. Expressions with one text therefore have the same shape, the same operators and
literals that are shown alike, which are the same literals if they are not decimals.
-/

namespace Reckon

open Text (isBare StopsRun)

/-!
## Operators
-/

theorem BinaryOp.isBare_of_mem_symbol (op : BinaryOp) :
    forall c, c ∈ op.symbol.toList -> isBare c = true := by
  have hall : op.symbol.toList.all isBare = true := by
    cases op <;> decide
  exact List.all_eq_true.mp hall

namespace StepOp

theorem isBare_of_mem_symbol (op : StepOp) :
    forall c, c ∈ op.symbol.toList -> isBare c = true := by
  have hall : op.symbol.toList.all isBare = true := by
    cases op <;> decide
  exact List.all_eq_true.mp hall

theorem symbol_injective {a b : StepOp} (h : a.symbol = b.symbol) : a = b := by
  revert h
  cases a <;> cases b <;> decide

theorem symbol_ne_symbol (op : StepOp) (op' : BinaryOp) : op.symbol ≠ op'.symbol := by
  cases op <;> cases op' <;> decide

end StepOp

namespace Expr

/-!
## Expressions that are shown alike
-/

/-- Expressions of one shape with the same operators and literals that are shown alike. -/
inductive ShownAlike : Expr -> Expr -> Prop where
  | literal {v w : Value} : v.ShownAlike w -> ShownAlike (.literal v) (.literal w)
  | step (op : StepOp) {operand operand' : Expr} :
      ShownAlike operand operand' -> ShownAlike (.step op operand) (.step op operand')
  | binary (op : BinaryOp) {left left' right right' : Expr} :
      ShownAlike left left' -> ShownAlike right right' ->
      ShownAlike (.binary op left right) (.binary op left' right')

theorem ShownAlike.chars_eq {s t : Expr} (h : s.ShownAlike t) : s.chars = t.chars := by
  induction h with
  | literal hvalues => rw [chars_literal, chars_literal, Value.chars_eq_chars_iff.mpr hvalues]
  | step op _ ih => rw [chars_step, chars_step, ih]
  | binary op _ _ ihl ihr => rw [chars_binary, chars_binary, ihl, ihr]

theorem ShownAlike.eq {s t : Expr} (h : s.ShownAlike t)
    (hs : forall v, v ∈ s.leaves -> v.kind ≠ .decimal) : s = t := by
  induction h with
  | literal hvalues =>
      cases hvalues with
      | decimal _ => exact absurd rfl (hs _ List.mem_cons_self)
      | refl _ => rfl
  | step op _ ih => rw [ih hs]
  | binary op _ _ ihl ihr =>
      rw [leaves, List.forall_mem_append] at hs
      rw [ihl hs.left, ihr hs.right]

/-!
## Taking a text apart
-/

theorem chars_step_append (op : StepOp) (operand : Expr) (a : List Char) :
    (step op operand).chars ++ a =
      '(' :: (op.symbol.toList ++ ' ' :: (operand.chars ++ ')' :: a)) := by
  simp [chars_step]

theorem chars_binary_append (op : BinaryOp) (left right : Expr) (a : List Char) :
    (binary op left right).chars ++ a =
      '(' :: (op.symbol.toList ++ ' ' :: (left.chars ++ ' ' :: (right.chars ++ ')' :: a))) := by
  simp [chars_binary]

theorem stopsRun_blank (cs : List Char) : StopsRun isBare (' ' :: cs) :=
  Text.stopsRun_cons rfl

theorem stopsRun_paren (cs : List Char) : StopsRun isBare (')' :: cs) :=
  Text.stopsRun_cons rfl

theorem symbol_split {x y : String} {a b : List Char}
    (hx : forall c, c ∈ x.toList -> isBare c = true)
    (hy : forall c, c ∈ y.toList -> isBare c = true)
    (h : '(' :: (x.toList ++ ' ' :: a) = '(' :: (y.toList ++ ' ' :: b)) : x = y ∧ a = b := by
  rcases Text.append_split hx hy (stopsRun_blank a) (stopsRun_blank b) (List.cons.inj h).right with
    ⟨hsymbols, hbehind⟩
  exact ⟨String.toList_inj.mp hsymbols, (List.cons.inj hbehind).right⟩

/-- The text of an expression is told apart from what stands behind it, and tells the
expression as far as it is shown. -/
theorem chars_split {s t : Expr} {a b : List Char} (ha : StopsRun isBare a)
    (hb : StopsRun isBare b) (h : s.chars ++ a = t.chars ++ b) : s.ShownAlike t ∧ a = b := by
  -- an operand stands in front of its operator's other operand, so what is behind it varies
  induction s generalizing t a b with
  | literal v =>
      cases t with
      | literal w =>
          rw [chars_literal, chars_literal] at h
          rcases Value.chars_split ha hb h with ⟨hchars, hbehind⟩
          exact ⟨.literal (.of_chars_eq hchars), hbehind⟩
      | step op operand =>
          rw [chars_literal, chars_step_append] at h
          exact absurd h (v.chars_append_ne_paren _ _)
      | binary op left right =>
          rw [chars_literal, chars_binary_append] at h
          exact absurd h (v.chars_append_ne_paren _ _)
  | step op operand ih =>
      cases t with
      | literal w =>
          rw [chars_literal, chars_step_append] at h
          exact absurd h.symm (w.chars_append_ne_paren _ _)
      | step op' operand' =>
          rw [chars_step_append, chars_step_append] at h
          rcases symbol_split op.isBare_of_mem_symbol op'.isBare_of_mem_symbol h with
            ⟨hsymbols, hoperands⟩
          rcases ih (stopsRun_paren a) (stopsRun_paren b) hoperands with ⟨halike, hbehind⟩
          cases StepOp.symbol_injective hsymbols
          exact ⟨.step op halike, (List.cons.inj hbehind).right⟩
      | binary op' left right =>
          rw [chars_step_append, chars_binary_append] at h
          have hsymbols := symbol_split op.isBare_of_mem_symbol op'.isBare_of_mem_symbol h
          exact absurd hsymbols.left (op.symbol_ne_symbol op')
  | binary op left right ihl ihr =>
      cases t with
      | literal w =>
          rw [chars_literal, chars_binary_append] at h
          exact absurd h.symm (w.chars_append_ne_paren _ _)
      | step op' operand =>
          rw [chars_step_append, chars_binary_append] at h
          have hsymbols := symbol_split op.isBare_of_mem_symbol op'.isBare_of_mem_symbol h
          exact absurd hsymbols.left.symm (op'.symbol_ne_symbol op)
      | binary op' left' right' =>
          rw [chars_binary_append, chars_binary_append] at h
          rcases symbol_split op.isBare_of_mem_symbol op'.isBare_of_mem_symbol h with
            ⟨hsymbols, hoperands⟩
          rcases ihl (stopsRun_blank _) (stopsRun_blank _) hoperands with ⟨hleft, hbetween⟩
          rcases ihr (stopsRun_paren a) (stopsRun_paren b) (List.cons.inj hbetween).right with
            ⟨hright, hbehind⟩
          cases BinaryOp.symbol_injective hsymbols
          exact ⟨.binary op hleft hright, (List.cons.inj hbehind).right⟩

/-!
## Expressions with one text
-/

theorem chars_eq_chars_iff {s t : Expr} : s.chars = t.chars <-> s.ShownAlike t := by
  constructor
  · intro h
    have hend : StopsRun isBare [] := Text.stopsRun_nil isBare
    exact (chars_split hend hend (congrArg (· ++ []) h)).left
  · exact ShownAlike.chars_eq

/-- An expression without decimals is the only one with its text: no other has it, be it
with decimals or without. -/
theorem eq_of_text_eq {s t : Expr} (hs : forall v, v ∈ s.leaves -> v.kind ≠ .decimal)
    (h : s.text = t.text) : s = t := by
  have hchars : s.chars = t.chars := String.ofList_injective h
  exact (chars_eq_chars_iff.mp hchars).eq hs

/-- Signs behind operators that begin alike, and a string that looks like an operand. -/
theorem eq_of_text_eq_of_signs :
    let count : Expr := .step .decrement (.literal (.integer (-1)))
    let label : Expr := .literal (.string "\") (-- 2)\t")
    let span : Expr := .literal (.duration ⟨-61500000000, by decide⟩)
    let s : Expr := .binary .sub (.binary .mul count label) span
    let t : Expr := graft .mul count (graft .sub label span)
    (forall v, v ∈ s.leaves -> v.kind ≠ .decimal) ∧
      s.text = "(- (* (-- -1) \"\\\") (-- 2)\\t\") -1m1.5s)" ∧ t.text = s.text ∧ s = t := by
  intro count label span s t
  have hleaves : forall v, v ∈ s.leaves -> v.kind ≠ .decimal := by
    decide
  have htext : s.text = "(- (* (-- -1) \"\\\") (-- 2)\\t\") -1m1.5s)" := by
    decide +kernel
  have hsame : t.text = s.text := by
    decide +kernel
  exact ⟨hleaves, htext, hsame, eq_of_text_eq hleaves hsame.symm⟩

end Expr
end Reckon
