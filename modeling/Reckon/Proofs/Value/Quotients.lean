import Reckon.Proofs.Decimal.Moderate
import Reckon.Proofs.Value.Representation

/-!
# Quotients of numbers

A number divided by another one than zero gives a decimal if one of the two is a decimal.
It is the exact quotient if that has no more digits than are kept, and otherwise close
to it, however the operands are written. Only where the scales of the operands together
leave the range of scales is there no quotient at all.
-/

namespace Reckon
namespace Value

variable {l r : Value}

/-- Whether a number is taken as a decimal with a moderate scale. -/
def IsModerate (v : Value) : Prop :=
  forall d, v.asDecimal? = some d -> d.IsModerate

theorem isModerate_of_promote {op : BinaryOp} {a b : Decimal} (hl : l.IsModerate)
    (hr : r.IsModerate) (h : promote op l r = .ok (a, b)) : a.IsModerate ∧ b.IsModerate := by
  unfold promote at h
  split at h
  · next ha hb =>
      cases h
      exact ⟨hl _ ha, hr _ hb⟩
  · cases h

theorem canDivide_of_isModerate (hl : l.IsModerate) (hr : r.IsModerate) : CanDivide l r := by
  intro _ a b hpromote
  rcases isModerate_of_promote hl hr hpromote with ⟨ha, hb⟩
  exact Decimal.canDivide_of_isModerate ha hb

theorem exists_div_of_canDivide {x y : ℚ} (hl : l.number? = some x) (hr : r.number? = some y)
    (hy : y ≠ 0) (hdecimal : l.kind = .decimal ∨ r.kind = .decimal) (h : CanDivide l r) :
    exists q : Decimal, l.apply .div r = .ok (.decimal q) ∧
      (q.toRat = 0 <-> x = 0) ∧
      SignType.sign q.toRat = SignType.sign (x * y) ∧
      (Decimal.FitsIn 100 (x / y) -> q.toRat = x / y) ∧
      (¬ Decimal.FitsIn 100 (x / y) -> |q.toRat - x / y| < 10 ^ (-99 : Int) * |x / y|) := by
  rcases exists_apply_div_eq hl hr hy hdecimal h with ⟨a, b, -, rfl, rfl, hresult⟩
  have hb := mt Decimal.toRat_eq_zero_iff.mpr hy
  have hsign := Decimal.sign_toPrecision_quotient (a := a) hb
  refine ⟨_, hresult, ?_, hsign, ?_, ?_⟩
  · rw [← sign_eq_zero_iff, hsign, sign_eq_zero_iff, mul_eq_zero]
    exact or_iff_left hy
  · intro hfits
    have hexact := Decimal.toRat_quotient_of_fitsIn hb hfits
    rw [Decimal.toRat_toPrecision_of_fitsIn (by decide) (hexact.symm ▸ hfits), hexact]
  · intro hlong
    exact Decimal.abs_toPrecision_quotient_sub_lt hb hlong

/-- Where the quotient of two numbers can be formed, as it can if their scales are moderate,
it is a decimal of the right sign, which is exact wherever it can be, and otherwise off by
less than one unit of the last digit that is kept. Where it cannot, division traps. -/
theorem div_of_numbers {x y : ℚ} (hl : l.number? = some x) (hr : r.number? = some y)
    (hy : y ≠ 0) (hdecimal : l.kind = .decimal ∨ r.kind = .decimal) :
    (l.IsModerate -> r.IsModerate -> CanDivide l r) ∧
      (CanDivide l r -> exists q : Decimal, l.apply .div r = .ok (.decimal q) ∧
        (q.toRat = 0 <-> x = 0) ∧
        SignType.sign q.toRat = SignType.sign (x * y) ∧
        (Decimal.FitsIn 100 (x / y) -> q.toRat = x / y) ∧
        (¬ Decimal.FitsIn 100 (x / y) -> |q.toRat - x / y| < 10 ^ (-99 : Int) * |x / y|)) ∧
      (¬ CanDivide l r -> l.apply .div r = .error .trap) :=
  ⟨canDivide_of_isModerate, exists_div_of_canDivide hl hr hy hdecimal,
    apply_div_of_not_canDivide hl⟩

/-- A negative numerator of a hundred and two digits, and one of a single digit, each
divided by a negative integer. -/
theorem div_of_numbers_of_negative :
    let long : Value := .decimal ⟨-(10 ^ 101 + 7), 0⟩
    let short : Value := .decimal ⟨-1, 2⟩
    let r : Value := .integer (-8)
    (exists q : Decimal, long.apply .div r = .ok (.decimal q) ∧
        q.toRat ≠ 0 ∧ SignType.sign q.toRat = 1) ∧
      exists q : Decimal, short.apply .div r = .ok (.decimal q) ∧ q.toRat = 1 / 800 := by
  intro long short r
  have hlong : long.number? = some (-(10 ^ 101 + 7)) := by
    norm_num [long, number?, Decimal.toRat]
  have hshort : short.number? = some (-1 / 100) := by
    norm_num [short, number?, Decimal.toRat]
  have hr : r.number? = some (-8) := by
    norm_num [r, number?]
  have hfits : Decimal.FitsIn 100 (-1 / 100 / -8) := by
    refine ⟨⟨125, 5⟩, by decide +kernel, ?_⟩
    norm_num [Decimal.toRat]
  have hlongScale : long.IsModerate := by
    rintro d ⟨⟩
    rw [Decimal.IsModerate]
    decide +kernel
  have hshortScale : short.IsModerate := by
    rintro d ⟨⟩
    rw [Decimal.IsModerate]
    decide +kernel
  have hrscale : r.IsModerate := by
    rintro d ⟨⟩
    rw [Decimal.IsModerate]
    decide +kernel
  rcases div_of_numbers hlong hr (by norm_num) (.inl rfl) with ⟨hrange, hquotient, -⟩
  rcases div_of_numbers hshort hr (by norm_num) (.inl rfl) with ⟨hrange', hquotient', -⟩
  rcases hquotient (hrange hlongScale hrscale) with ⟨q, hq, hzero, hsign, -⟩
  rcases hquotient' (hrange' hshortScale hrscale) with ⟨p, hp, -, -, hexact, -⟩
  refine ⟨⟨q, hq, ?_, ?_⟩, p, hp, ?_⟩
  · exact mt hzero.mp (by norm_num)
  · rw [hsign, sign_pos (by norm_num)]
  · rw [hexact hfits]
    norm_num

/-- Two literals whose scales have no difference in range. Their quotient is a literal, and is
found if the same divisor is written without digits behind its point. -/
theorem div_of_widest_trapped :
    let l : Decimal := ⟨2, -9223372036854775807⟩
    let r : Decimal := ⟨2000000, 6⟩
    Decimal.ofChars "2e9223372036854775807".toList = .ok l ∧
      Decimal.ofChars "2.000000".toList = .ok r ∧ r.toRat = 2 ∧
      (Value.decimal l).apply .div (.decimal r) = .error .trap ∧
      (¬ exists q, (Value.decimal l).apply .div (.decimal r) = .ok (.decimal q)) ∧
      (Value.decimal l).apply .div (.integer 2) =
        .ok (.decimal ⟨10 ^ 99, -9223372036854775708⟩) := by
  intro l r
  have htrap : (Value.decimal l).apply .div (.decimal r) = .error .trap := by decide +kernel
  have hr : r.toRat = 2 := by norm_num [r, Decimal.toRat]
  refine ⟨by decide +kernel, by decide +kernel, hr, htrap, ?_, by decide +kernel⟩
  rintro ⟨q, hq⟩
  rw [htrap] at hq
  cases hq

end Value
end Reckon
