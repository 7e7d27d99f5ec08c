import Reckon.Proofs.Expr.Growth
import Reckon.Proofs.Value.Traps

/-!
# Expressions that never trap

What the values of an expression have in places and digits adds up from node to node, as the
limits on powers and on integers keep single results small. So whether an expression can trap
is told by its literals and its size.
-/

namespace Reckon

open Integer (bitLength)

namespace Value

/-!
## One operator
-/

/-- The places and the digits of a number, taken as a decimal. -/
def extent : Value -> Nat
  | .integer n => bitLength n + 1
  | .decimal d => d.extent
  | _ => 0

/-- What an operator can add to the places and digits of its operands, two to the power
of 42. -/
def extentGain : Nat := 4398046511104

section Operators

variable {l r v : Value} {a b d : Decimal} {op : BinaryOp}

theorem extent_of_asDecimal? (h : v.asDecimal? = some d) : d.extent ≤ v.extent := by
  cases v with
  | integer n =>
      cases h
      exact Decimal.extent_ofInt_le n
  | decimal b =>
      cases h
      exact Nat.le_refl _
  | boolean _ | string _ | duration _ => cases h

theorem isModerate_of_extent (h : v.extent ≤ 2 ^ 61) : v.IsModerate :=
  fun _ hd => Decimal.isModerate_iff.mpr ((extent_of_asDecimal? hd).trans h)

theorem extent_of_promote (h : promote op l r = .ok (a, b)) :
    a.extent ≤ l.extent ∧ b.extent ≤ r.extent := by
  unfold promote at h
  split at h
  · next ha hb =>
      cases h
      exact ⟨extent_of_asDecimal? ha, extent_of_asDecimal? hb⟩
  · cases h

theorem extent_of_quotientResult {d? : Option Decimal} {limit : Nat}
    (hd : forall d, d? = some d -> d.extent ≤ limit) (h : quotientResult d? = .ok v) :
    v.extent ≤ limit := by
  unfold quotientResult at h
  split at h
  · next d =>
      cases h
      exact hd d rfl
  · cases h

theorem extent_of_onDecimals {f : Decimal -> Decimal -> Option Decimal} {gain : Nat}
    (hf : forall a b d, f a b = some d -> d.extent ≤ a.extent + b.extent + gain)
    (h : onDecimals op f l r = .ok v) : v.extent ≤ l.extent + r.extent + gain := by
  unfold onDecimals at h
  split at h
  · next a b hpromote =>
      have hoperands := extent_of_promote hpromote
      cases hresult : f a b with
      | none =>
          rw [hresult] at h
          cases h
      | some d =>
          rw [hresult] at h
          cases h
          have hbound := hf a b d hresult
          show d.extent ≤ _
          omega
  · cases h

theorem extent_of_sum? (h : a.sum? b = some d) : d.extent ≤ a.extent + b.extent + 201 := by
  rw [← (Decimal.sum?_eq_some_iff.mp h).right]
  exact Decimal.extent_sum_le a b

theorem extent_of_div (hdecimal : l.kind = .decimal ∨ r.kind = .decimal)
    (h : div .div l r = .ok v) : v.extent ≤ l.extent + r.extent + 301 := by
  rw [div_of_decimal hdecimal] at h
  split at h
  · next a b hpromote =>
      have hoperands := extent_of_promote hpromote
      unfold decimalQuotient at h
      split at h
      · refine extent_of_quotientResult (fun d hd => ?_) h
        have hbound := Decimal.extent_div?_le hd
        omega
      · cases h
  · cases h

theorem extent_of_integerPower {base exponent : Int}
    (h : integerPower .pow base exponent = .ok v) : v.extent ≤ extentGain := by
  have hgain : 2 * maxIntegerBits + 400 ≤ extentGain := by decide
  unfold integerPower at h
  dsimp only at h
  split at h
  · cases h
  · next hwide =>
      have hlimit := isTooWide_eq_false_iff.mp (Bool.eq_false_iff.mpr hwide)
      have hbits := (bitLength_pow_le_maxIntegerBits hlimit).right
      split at h
      · refine extent_of_quotientResult (fun d hd => ?_) h
        have hone : (Decimal.ofInt 1).extent = 1 := by decide +kernel
        have hinverse := Decimal.extent_div?_le hd
        have hpower := Decimal.extent_ofInt_le (Int.pow base exponent.natAbs)
        omega
      · cases h
        show bitLength _ + 1 ≤ _
        omega

theorem extent_of_decimalPower {base : Decimal} {exponent : Int}
    (hexponent : exponent.natAbs < exponentLimit)
    (h : decimalPower .pow base exponent = .ok v) : v.extent ≤ extentGain := by
  have hgain : 2 ^ 41 + 1000 ≤ extentGain := by decide
  by_cases hplace : base.hasPlace = true
  · rw [decimalPower_of_hasPlace hplace] at h
    split at h
    · cases h
    · next hlimit =>
        have hpower := Decimal.extent_power_le (Nat.not_lt.mp hlimit) hexponent
        split at h
        · refine extent_of_quotientResult (fun d hd => ?_) h
          have hone : (Decimal.ofInt 1).extent = 1 := by decide +kernel
          have hinverse := Decimal.extent_div?_le hd
          omega
        · cases h
          show (base.power exponent.natAbs).extent ≤ _
          omega
  · rw [decimalPower_of_not_hasPlace hplace] at h
    cases h

theorem extent_of_pow (h : pow .pow l r = .ok v) : v.extent ≤ extentGain := by
  rcases exists_of_pow_eq_ok h with ⟨n, -, hlimit, ⟨a, -, hpower⟩ | ⟨base, -, hpower⟩⟩
  · exact extent_of_integerPower hpower
  · exact extent_of_decimalPower hlimit hpower

theorem extent_of_yieldsInteger {n m : Int} (h : YieldsInteger op n r m) :
    bitLength m + 1 ≤ (bitLength n + 1) + r.extent + extentGain := by
  have hgain : 2 * maxIntegerBits + 1 ≤ extentGain := by decide
  have hright : forall b, r = .integer b ->
      bitLength b ≤ bitLength n + r.extent + 2 * maxIntegerBits := by
    rintro b rfl
    show _ ≤ bitLength n + (bitLength b + 1) + _
    omega
  have hbits := h.bitLength_le (k := bitLength n + r.extent + 2 * maxIntegerBits) (by omega)
    hright (by omega)
  omega

/-- A decimal comes of decimals, or of a power. -/
theorem decimals_or_pow (h : l.apply op r = .ok (.decimal d)) :
    ((l.kind = .decimal ∨ r.kind = .decimal) ∧ op.family = .arithmetic) ∨ op = .pow := by
  have htyped := typed_apply op l r
  rw [h] at htyped
  cases htyped with
  | ok htakes hkind =>
      unfold resultKind at hkind
      split at hkind
      · cases hkind
      · next hfamily =>
          rw [not_or] at hfamily
          rcases paired_or_unlike l r with hpaired | hunlike
          · cases hpaired with
            | integers _ _ =>
                dsimp only at hkind
                split at hkind
                · next hpow => exact .inr hpow.left
                · cases hkind
            | integerDecimal _ _ => exact .inl ⟨.inr rfl, htakes.resolve_right hfamily.left⟩
            | decimalInteger _ _ => exact .inl ⟨.inl rfl, htakes.resolve_right hfamily.left⟩
            | decimals _ _ => exact .inl ⟨.inl rfl, htakes.resolve_right hfamily.left⟩
            | booleans _ _ =>
                rcases htakes with rfl | rfl | rfl | rfl
                · exact absurd rfl hfamily.right
                · exact absurd rfl hfamily.right
                · exact absurd rfl hfamily.left
                · exact absurd rfl hfamily.left
            | strings _ _ => cases hkind
            | durations _ _ => cases hkind
          · rw [hunlike] at htakes
            exact htakes.elim

theorem perform_of_apply (h : l.apply op r = .ok v) : perform op l r = .ok v := by
  unfold apply at h
  split at h
  · exact h
  · cases h

/-- An operator yields little more than both its operands have together. -/
theorem extent_of_apply (h : l.apply op r = .ok v) :
    v.extent ≤ l.extent + r.extent + extentGain := by
  have hgain : 301 ≤ extentGain := by decide
  have hperform := perform_of_apply h
  cases v with
  | integer m =>
      rcases yieldsInteger_of_apply h with ⟨n, rfl, hyields⟩
      exact extent_of_yieldsInteger hyields
  | decimal d =>
      rcases decimals_or_pow h with ⟨hdecimal, hfamily⟩ | rfl
      · cases op with
        | add =>
            rw [perform, add_eq_onDecimals hdecimal] at hperform
            have hsum := extent_of_onDecimals (fun _ _ _ => extent_of_sum?) hperform
            omega
        | sub =>
            rw [perform, sub_eq_onDecimals hdecimal] at hperform
            have hsum := extent_of_onDecimals (fun a b _ hd =>
              b.extent_neg ▸ extent_of_sum? hd) hperform
            omega
        | mul =>
            rw [perform, mul_eq_onDecimals hdecimal] at hperform
            have hproduct : (decimal d).extent ≤ l.extent + r.extent + 0 :=
              extent_of_onDecimals (fun a b _ hd =>
                (Decimal.mul?_eq_some_iff.mp hd).right ▸ Decimal.extent_mul_le a b) hperform
            omega
        | div =>
            have hquotient := extent_of_div hdecimal hperform
            omega
        | pow => exact Nat.le_add_left_of_le (extent_of_pow hperform)
        | bitAnd | bitOr | bitXor | shiftLeft | shiftRight => cases hfamily
        | and | or | eq | ne | lt | le | gt | ge => cases hfamily
      · exact Nat.le_add_left_of_le (extent_of_pow hperform)
  | boolean _ | string _ | duration _ => exact Nat.zero_le _

theorem extent_of_applyStep {op : StepOp} (h : l.applyStep op = .ok v) :
    v.extent ≤ l.extent + extentGain := by
  have hgain : 300 ≤ extentGain := by decide
  have hdelta := bitLength_delta_le op
  cases l with
  | integer n =>
      cases h
      have hsum := Integer.bitLength_add_le (Nat.le_succ (bitLength n))
        (hdelta.trans (Nat.succ_pos (bitLength n)))
      show bitLength (n + op.delta) + 1 ≤ (bitLength n + 1) + _
      omega
  | decimal d =>
      have hone := Decimal.extent_ofInt_le op.delta
      change decimalResult (d.sum? (Decimal.ofInt op.delta)) = _ at h
      cases hsum : d.sum? (Decimal.ofInt op.delta) with
      | none =>
          rw [hsum] at h
          cases h
      | some moved =>
          rw [hsum] at h
          cases h
          have hmoved := extent_of_sum? hsum
          show moved.extent ≤ d.extent + _
          omega
  | boolean _ | string _ | duration _ => cases h

end Operators

end Value

namespace Expr

/-!
## The whole tree
-/

variable {limit level k : Nat} {e : Expr}

/-- Each node adds what its operator can add, and each literal what it has. -/
theorem extent_evaluateAt_le (hleaves : forall v, v ∈ e.leaves -> v.extent ≤ k) {v : Value}
    (h : e.evaluateAt limit level = .ok v) : v.extent ≤ (k + Value.extentGain) * e.size := by
  induction e generalizing level v with
  | literal w =>
      cases evaluateAt_literal_eq_ok h
      have hliteral := hleaves _ List.mem_cons_self
      show _ ≤ _ * 1
      omega
  | step op operand ih =>
      rcases evaluateAt_step_eq_ok h with ⟨w, hoperand, hstep⟩
      have hbelow := ih hleaves hoperand
      have hmoved := Value.extent_of_applyStep hstep
      rw [size, Nat.mul_succ]
      omega
  | binary op left right ihl ihr =>
      rcases evaluateAt_binary_eq_ok h with ⟨l, r, hleft, hright, happly⟩
      have hl := ihl (fun w hw => hleaves w (List.mem_append_left _ hw)) hleft
      have hr := ihr (fun w hw => hleaves w (List.mem_append_right _ hw)) hright
      have hresult := Value.extent_of_apply happly
      rw [size, Nat.mul_succ, Nat.mul_add]
      omega

theorem evaluateAt_ne_trap (hleaves : forall v, v ∈ e.leaves -> v.extent ≤ k)
    (hsize : (k + Value.extentGain) * e.size ≤ 2 ^ 61) :
    e.evaluateAt limit level ≠ .error .trap := by
  induction e generalizing level with
  | literal w =>
      rw [evaluateAt]
      split
      · intro h
        cases h
      · intro h
        cases h
  | step op operand ih =>
      rw [size, Nat.mul_succ] at hsize
      rw [evaluateAt]
      split
      · intro h
        cases h
      · split
        · next v hoperand =>
            have hvalue := extent_evaluateAt_le (e := operand) hleaves hoperand
            exact Value.applyStep_ne_trap (Value.isModerate_of_extent (by omega)) op
        · next x hoperand =>
            rw [← hoperand]
            exact ih hleaves (by omega)
  | binary op left right ihl ihr =>
      rw [size, Nat.mul_succ, Nat.mul_add] at hsize
      have hleft (v : Value) (hv : v ∈ left.leaves) := hleaves v (List.mem_append_left _ hv)
      have hright (v : Value) (hv : v ∈ right.leaves) := hleaves v (List.mem_append_right _ hv)
      rw [evaluateAt]
      split
      · intro h
        cases h
      · split
        · next x hl =>
            rw [← hl]
            exact ihl hleft (by omega)
        · next l hl =>
            have hlvalue := extent_evaluateAt_le hleft hl
            split
            · next r hr =>
                have hrvalue := extent_evaluateAt_le hright hr
                exact Value.apply_ne_trap (Value.isModerate_of_extent (by omega))
                  (Value.isModerate_of_extent (by omega)) op
            · next x hr =>
                rw [← hr]
                exact ihr hright (by omega)

/-- Whether the literals of an expression are small enough for its size. -/
def IsModerate (e : Expr) : Prop :=
  exists k, (forall v, v ∈ e.leaves -> v.extent ≤ k) ∧ (k + Value.extentGain) * e.size ≤ 2 ^ 61

/-- Nothing traps in an expression whose literals are small enough for its size. -/
theorem evaluate_ne_trap (h : e.IsModerate) (limit : Nat) : e.evaluate limit ≠ .error .trap := by
  rcases h with ⟨k, hleaves, hsize⟩
  exact evaluateAt_ne_trap hleaves hsize

end Expr
end Reckon
