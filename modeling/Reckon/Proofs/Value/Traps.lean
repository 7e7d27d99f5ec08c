import Reckon.Proofs.Decimal.Extent
import Reckon.Proofs.Value.IntegerSize
import Reckon.Proofs.Value.Kinds
import Reckon.Proofs.Value.Quotients

/-!
# Where nothing traps

An operator traps over a decimal only, and only over one whose scale or whose number of
digits comes near to the ends of the range of scales. What it is applied to is all that
matters: the numbers on the way to its result stay within the range by themselves.
-/

namespace Reckon

/-!
## Moderate decimals
-/

namespace Decimal

variable {a b d : Decimal}

theorem IsModerate.neg (h : d.IsModerate) : (-d).IsModerate := by
  rw [isModerate_iff, extent_neg]
  exact h

theorem IsModerate.leadingExponent_le (h : d.IsModerate) :
    d.leadingExponent.natAbs ≤ 2 ^ 61 :=
  (natAbs_leadingExponent_le d).trans (isModerate_iff.mp h)

theorem IsModerate.hasPlace (h : d.IsModerate) : d.hasPlace = true := by
  have hplace := h.leadingExponent_le
  rw [Decimal.hasPlace, isScale_iff]
  omega

theorem sum?_of_isModerate (ha : a.IsModerate) (hb : b.IsModerate) :
    exists d, a.sum? b = some d :=
  ⟨_, sum?_of_canAdd (canAdd_of_hasPlace ha.hasPlace hb.hasPlace)⟩

theorem canMultiply_of_isModerate (ha : a.IsModerate) (hb : b.IsModerate) :
    canMultiply a b = true := by
  have hscale : isScale (a.scale + b.scale) = true := by
    rw [IsModerate] at ha hb
    rw [isScale_iff]
    omega
  rw [canMultiply, hscale, Bool.or_true]

theorem IsModerate.canShow (h : d.IsModerate) : d.canShow = true := by
  have hplace := h.leadingExponent_le
  have hdigits : shownDigits = 16 := rfl
  have hround : canRound shownDigits d = true := by
    rw [canRound_iff]
    omega
  have hshown : d.shown.hasPlace = true := by
    have hscale : d.shown.scale = shownDigits - 1 - d.leadingExponent := scale_toPrecision _ _
    have hcount : d.shown.digitCount ≤ shownDigits + 1 :=
      digitCount_toPrecision_le (by decide) d
    rw [Decimal.hasPlace, isScale_iff, leadingExponent]
    omega
  rw [Decimal.canShow, hround, hshown, Bool.or_true, Bool.and_self]

end Decimal

theorem OwnFailure.ne_trap {op : BinaryOp} {pairing : Pairing} {e : EvalError}
    (h : OwnFailure op pairing e) : e ≠ .trap := by
  rintro rfl
  cases h

namespace Value

/-!
## Operands taken as decimals
-/

theorem decimalResult_ne_trap {d? : Option Decimal} {d : Decimal} (h : d? = some d) :
    decimalResult d? ≠ .error .trap := by
  rw [h]
  intro h
  cases h

theorem quotientResult_ne_trap (d? : Option Decimal) : quotientResult d? ≠ .error .trap := by
  cases d? with
  | none =>
      intro h
      cases h
  | some d =>
      intro h
      cases h

theorem canBeRead_of_isModerate {d : Decimal} (h : d.IsModerate) : CanBeRead d :=
  fun _ => ⟨h.hasPlace, fun _ => h.canShow⟩

theorem IsModerate.hasPlace {v : Value} (h : v.IsModerate) : v.HasPlace :=
  fun d hd => (h d hd).hasPlace

section Operands

variable {l r : Value}

theorem promote_ne_trap {op : BinaryOp} : promote op l r ≠ .error .trap := by
  unfold promote
  split
  · intro h
    cases h
  · intro h
    cases h

theorem numbers_of_pairing (h : pairing l r = .decimals) :
    (exists x y, l.number? = some x ∧ r.number? = some y) ∧
      (l.kind = .decimal ∨ r.kind = .decimal) := by
  rcases paired_or_unlike l r with hpaired | hunlike
  · cases hpaired with
    | integerDecimal _ _ => exact ⟨⟨_, _, rfl, rfl⟩, .inr rfl⟩
    | decimalInteger _ _ => exact ⟨⟨_, _, rfl, rfl⟩, .inl rfl⟩
    | decimals _ _ => exact ⟨⟨_, _, rfl, rfl⟩, .inl rfl⟩
    | integers _ _ | booleans _ _ | strings _ _ | durations _ _ => cases h
  · rw [h] at hunlike
    cases hunlike

theorem onDecimals_ne_trap {op : BinaryOp} {f : Decimal -> Decimal -> Option Decimal}
    (hl : l.IsModerate) (hr : r.IsModerate)
    (hf : forall a b, a.IsModerate -> b.IsModerate -> exists d, f a b = some d) :
    onDecimals op f l r ≠ .error .trap := by
  unfold onDecimals
  split
  · next hpromote =>
      rcases isModerate_of_promote hl hr hpromote with ⟨ha, hb⟩
      rcases hf _ _ ha hb with ⟨d, hd⟩
      exact decimalResult_ne_trap hd
  · next e he =>
      intro h
      cases h
      exact promote_ne_trap he

/-!
## Powers
-/

/-- Behind the limit on bits the reciprocal of a power of integers can be formed. -/
theorem canDivide_integerPower {base : Int} {exponent : Nat}
    (h : (Integer.bitLength base - 1) * exponent ≤ maxIntegerBits) :
    (Decimal.ofInt 1).canDivide (Decimal.ofInt (Int.pow base exponent)) = true := by
  have hbits := (bitLength_pow_le_maxIntegerBits h).right
  have hpower := Decimal.extent_ofInt_le (Int.pow base exponent)
  have hwide : 2 * maxIntegerBits + 1 ≤ 2 ^ 61 := by decide
  apply Decimal.canDivide_of_isModerate Decimal.isModerate_one
  rw [Decimal.isModerate_iff]
  omega

theorem integerPower_ne_trap (op : BinaryOp) (base exponent : Int) :
    integerPower op base exponent ≠ .error .trap := by
  unfold integerPower
  dsimp only
  split
  · intro h
    cases h
  · split
    · exact quotientResult_ne_trap _
    · intro h
      cases h

theorem decimalPower_ne_trap {base : Decimal} (h : base.IsModerate) (op : BinaryOp)
    (exponent : Int) : decimalPower op base exponent ≠ .error .trap := by
  rw [decimalPower_of_hasPlace h.hasPlace]
  split
  · intro h
    cases h
  · split
    · exact quotientResult_ne_trap _
    · intro h
      cases h

theorem wholeExponent_ne_trap (hr : r.IsModerate) (op : BinaryOp) :
    wholeExponent op l r ≠ .error .trap := by
  cases r with
  | decimal d =>
      by_cases hzero : d.coefficient = 0
      · rw [wholeExponent_of_eq_zero hzero]
        intro h
        cases h
      · rw [wholeExponent_of_canBeRead hzero (canBeRead_of_isModerate (hr d rfl))]
        split
        · intro h
          cases h
        · split
          · intro h
            cases h
          · intro h
            cases h
  | integer _ | boolean _ | string _ | duration _ =>
      intro h
      cases h

theorem pow_ne_trap (hl : l.IsModerate) (hr : r.IsModerate) (op : BinaryOp) :
    pow op l r ≠ .error .trap := by
  unfold pow
  split
  · next e he =>
      intro h
      cases h
      exact wholeExponent_ne_trap hr op he
  · split
    · intro h
      cases h
    · split
      · exact integerPower_ne_trap _ _ _
      · exact decimalPower_ne_trap (hl _ rfl) _ _
      · intro h
        cases h

/-!
## Every operator
-/

theorem div_ne_trap (hl : l.IsModerate) (hr : r.IsModerate)
    (hdecimal : l.kind = .decimal ∨ r.kind = .decimal) (op : BinaryOp) :
    div op l r ≠ .error .trap := by
  rw [div_of_decimal hdecimal]
  split
  · next hpromote =>
      rcases isModerate_of_promote hl hr hpromote with ⟨ha, hb⟩
      rw [decimalQuotient_of_canDivide (Decimal.canDivide_of_isModerate ha hb)]
      exact quotientResult_ne_trap _
  · next e he =>
      intro h
      cases h
      exact promote_ne_trap he

theorem perform_ne_trap (hl : l.IsModerate) (hr : r.IsModerate)
    (hpairing : pairing l r = .decimals) {op : BinaryOp} (htakes : (pairing l r).Takes op) :
    perform op l r ≠ .error .trap := by
  rcases numbers_of_pairing hpairing with ⟨⟨x, y, hx, hy⟩, hdecimal⟩
  have hcomparison (hop : op.family = .comparison) : comparison op l r ≠ .error .trap := by
    have horder := ordering_of_hasPlace hx hy hl.hasPlace hr.hasPlace op
    rcases exists_holds? hop (compare x y) with ⟨answer, hanswer⟩
    rw [comparison, horder]
    dsimp only
    rw [hanswer]
    intro h
    cases h
  cases op with
  | add =>
      rw [perform, add_eq_onDecimals hdecimal]
      exact onDecimals_ne_trap hl hr fun _ _ ha hb => Decimal.sum?_of_isModerate ha hb
  | sub =>
      rw [perform, sub_eq_onDecimals hdecimal]
      exact onDecimals_ne_trap hl hr fun _ _ ha hb => Decimal.sum?_of_isModerate ha hb.neg
  | mul =>
      rw [perform, mul_eq_onDecimals hdecimal]
      exact onDecimals_ne_trap hl hr fun _ _ ha hb =>
        ⟨_, Decimal.mul?_of_canMultiply (Decimal.canMultiply_of_isModerate ha hb)⟩
  | div => exact div_ne_trap hl hr hdecimal _
  | pow => exact pow_ne_trap hl hr _
  | eq | ne | lt | le | gt | ge => exact hcomparison rfl
  | bitAnd | bitOr | bitXor | shiftLeft | shiftRight | and | or =>
      rw [hpairing] at htakes
      cases htakes with
      | inl hfamily => cases hfamily
      | inr hfamily => cases hfamily

/-- No operator traps over operands whose scales are moderate. -/
theorem apply_ne_trap (hl : l.IsModerate) (hr : r.IsModerate) (op : BinaryOp) :
    l.apply op r ≠ .error .trap := by
  intro htrap
  have htyped := typed_apply op l r
  rw [htrap] at htyped
  cases htyped with
  | error _ hown => exact hown.ne_trap rfl
  | trap htakes hpairing =>
      have hperform := perform_ne_trap hl hr hpairing htakes
      rw [apply, if_pos (Kind.supports_of_takes htakes)] at htrap
      exact hperform htrap

theorem applyStep_ne_trap (hl : l.IsModerate) (op : StepOp) : l.applyStep op ≠ .error .trap := by
  cases l with
  | decimal d =>
      have hdelta : (Decimal.ofInt op.delta).IsModerate := by
        rw [Decimal.IsModerate]
        cases op <;> decide +kernel
      rcases Decimal.sum?_of_isModerate (hl d rfl) hdelta with ⟨_, hsum⟩
      exact decimalResult_ne_trap hsum
  | integer _ | boolean _ | string _ | duration _ =>
      intro h
      cases h

end Operands

end Value
end Reckon
