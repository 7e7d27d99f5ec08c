import Reckon.Proofs.Decimal.Powers
import Reckon.Proofs.Decimal.Quotient
import Reckon.Proofs.Value.Order

/-!
# Division and powers of values that are alike

Division and powers look at the digits of decimals. They still give alike results for
alike operands wherever a quotient is rounded once, and wherever a power of zero is not
refused. A quotient is rounded twice if its numerator is very long, and which digit it is
rounded at first depends on how the numerator is written. A power of zero is refused for
the scale that the zero happens to have.
-/

namespace Reckon

/-!
## Errors for alike operands
-/

/-- Errors that are the same, apart from how an exponent that they name is written. -/
inductive EvalError.Alike : EvalError -> EvalError -> Prop where
  | exponentTooLong {a b : Decimal} (op : BinaryOp) : a.toRat = b.toRat ->
      Alike (.invalidOperand op (.exponentTooLong a)) (.invalidOperand op (.exponentTooLong b))
  | refl (e : EvalError) : Alike e e

theorem EvalError.Alike.message_eq {e e' : EvalError} (h : e.Alike e') :
    e.message = e'.message := by
  cases h with
  | exponentTooLong op hnumber =>
      unfold EvalError.message OperandFault.message
      dsimp only
      rw [Decimal.chars_congr hnumber]
  | refl _ => rfl

/-- Results that are alike errors, or are related. -/
inductive ResultsAgree {α : Type} (related : α -> α -> Prop) :
    Except EvalError α -> Except EvalError α -> Prop where
  | error {e e' : EvalError} : e.Alike e' -> ResultsAgree related (.error e) (.error e')
  | ok {a b : α} : related a b -> ResultsAgree related (.ok a) (.ok b)

namespace Value

theorem AlikeResults.agree {x y : Except EvalError Value} (h : AlikeResults x y) :
    ResultsAgree Alike x y := by
  cases h with
  | error e => exact .error (.refl e)
  | ok hvalues => exact .ok hvalues

section Alike

variable {l r l' r' : Value}

/-!
## Quotients
-/

theorem div_of_decimal (h : l.kind = .decimal ∨ r.kind = .decimal) (op : BinaryOp) :
    div op l r =
      match promote op l r with
      | .ok (a, b) => decimalQuotient a b
      | .error e => .error e := by
  unfold div
  split
  · simp [kind] at h
  · rfl

/-- Whether a quotient of values is rounded once, or not at all. -/
def DividesOnce (l r : Value) : Prop :=
  l.kind = .decimal ∨ r.kind = .decimal ->
    forall a b, promote .div l r = .ok (a, b) -> Decimal.RoundsOnce a b

theorem alike_quotientResult {d d' : Option Decimal}
    (h : d.map Decimal.toRat = d'.map Decimal.toRat) :
    AlikeResults (quotientResult d) (quotientResult d') := by
  cases d with
  | none =>
      cases d' with
      | none => exact .error _
      | some b => cases h
  | some a =>
      cases d' with
      | none => cases h
      | some b => exact .ok (.decimal (Option.some.inj h))

theorem decimalQuotient_of_canDivide {a b : Decimal} (h : a.canDivide b = true) :
    decimalQuotient a b = quotientResult (a.div? b) :=
  if_pos h

theorem decimalQuotient_of_not_canDivide {a b : Decimal} (h : ¬ a.canDivide b = true) :
    decimalQuotient a b = .error .trap :=
  if_neg h

theorem canDivide_of_decimalQuotient {a b : Decimal} (h : decimalQuotient a b ≠ .error .trap) :
    a.canDivide b = true :=
  of_not_not (mt decimalQuotient_of_not_canDivide h)

theorem Alike.div (hl : l.Alike l') (hr : r.Alike r') (h : DividesOnce l r)
    (h' : DividesOnce l' r') : AlikeUnlessTrapped (div .div l r) (div .div l' r') := by
  rcases hl.eq_or_decimal hr with ⟨rfl, rfl⟩ | ⟨hdecimal, hdecimal'⟩
  · exact (AlikeResults.refl _).unlessTrapped
  · rw [div_of_decimal hdecimal, div_of_decimal hdecimal']
    rcases hl.promote hr .div with ⟨a, b, a', b', hleft, hright, ha, hb⟩ | ⟨e, hleft, hright⟩
    · have honce := h hdecimal a b hleft
      have honce' := h' hdecimal' a' b' hright
      rw [hleft, hright]
      dsimp only
      intro hdivide hdivide'
      rw [decimalQuotient_of_canDivide (canDivide_of_decimalQuotient hdivide),
        decimalQuotient_of_canDivide (canDivide_of_decimalQuotient hdivide')]
      exact alike_quotientResult (Decimal.toRat_div?_congr ha hb honce honce')
    · rw [hleft, hright]
      exact (AlikeResults.error e).unlessTrapped

/-- Whether the quotient of two numbers can be formed. Nothing is asked about integers. -/
def CanDivide (l r : Value) : Prop :=
  l.kind = .decimal ∨ r.kind = .decimal ->
    forall a b, promote .div l r = .ok (a, b) -> a.canDivide b = true

theorem exists_apply_div_eq {x y : ℚ} (hl : l.number? = some x) (hr : r.number? = some y)
    (hy : y ≠ 0) (hdecimal : l.kind = .decimal ∨ r.kind = .decimal) (h : CanDivide l r) :
    exists a b : Decimal, promote .div l r = .ok (a, b) ∧ a.toRat = x ∧ b.toRat = y ∧
      l.apply .div r =
        .ok (.decimal (Decimal.toPrecision Decimal.precision (Decimal.quotient a b))) := by
  rcases promote_of_number? hl hr .div with ⟨a, b, hpromote, rfl, rfl⟩
  have hb := mt Decimal.toRat_eq_zero_iff.mpr hy
  refine ⟨a, b, hpromote, rfl, rfl, ?_⟩
  rw [apply, if_pos (supports_of_number? (.inl rfl) hl), perform, div_of_decimal hdecimal, hpromote]
  dsimp only
  rw [decimalQuotient_of_canDivide (h hdecimal a b hpromote), Decimal.div?, Decimal.isZero,
    beq_eq_false_iff_ne.mpr hb, if_neg Bool.false_ne_true]
  rfl

theorem apply_div_of_dividesOnce {x y : ℚ} (hl : l.number? = some x) (hr : r.number? = some y)
    (hy : y ≠ 0) (hdecimal : l.kind = .decimal ∨ r.kind = .decimal) (hdivide : CanDivide l r)
    (h : DividesOnce l r) :
    exists d, l.apply .div r = .ok (.decimal d) ∧
      d.toRat = Decimal.nearest Decimal.precision (x / y) := by
  rcases exists_apply_div_eq hl hr hy hdecimal hdivide with ⟨a, b, hpromote, rfl, rfl, hresult⟩
  have hb := mt Decimal.toRat_eq_zero_iff.mpr hy
  exact ⟨_, hresult, Decimal.toRat_toPrecision_quotient hb (h hdecimal a b hpromote)⟩

theorem apply_div_of_not_canDivide {x : ℚ} (hl : l.number? = some x) (h : ¬ CanDivide l r) :
    l.apply .div r = .error .trap := by
  rw [CanDivide] at h
  push Not at h
  rcases h with ⟨hdecimal, a, b, hpromote, hdivide⟩
  rw [apply, if_pos (supports_of_number? (.inl rfl) hl), perform, div_of_decimal hdecimal,
    hpromote]
  exact decimalQuotient_of_not_canDivide hdivide

theorem decimalQuotient_eq_error_iff {a b : Decimal} {e : EvalError} (he : e ≠ .trap) :
    decimalQuotient a b = .error e <-> b.isZero = true ∧ e = .divisionByZero := by
  rw [decimalQuotient, Decimal.canDivide, Decimal.div?]
  cases hzero : b.isZero with
  | true =>
      rw [Bool.true_or, if_pos rfl, if_pos rfl, quotientResult, Except.error.injEq]
      exact ⟨fun h => ⟨rfl, h.symm⟩, fun h => h.right.symm⟩
  | false =>
      rw [if_neg Bool.false_ne_true]
      split
      · exact iff_of_false (fun h => by cases h) fun h => by cases h.left
      · exact iff_of_false (fun h => he (Except.error.inj h).symm) fun h => by cases h.left

theorem Alike.div_eq_error_iff (hl : l.Alike l') (hr : r.Alike r') {e : EvalError}
    (he : e ≠ .trap) :
    Value.div .div l r = .error e <-> Value.div .div l' r' = .error e := by
  rcases hl.eq_or_decimal hr with ⟨rfl, rfl⟩ | ⟨hdecimal, hdecimal'⟩
  · rfl
  · rw [div_of_decimal hdecimal, div_of_decimal hdecimal']
    rcases hl.promote hr .div with ⟨a, b, a', b', hleft, hright, -, hb⟩ | ⟨e, hleft, hright⟩
    · rw [hleft, hright]
      dsimp only
      rw [decimalQuotient_eq_error_iff he, decimalQuotient_eq_error_iff he,
        Decimal.isZero_congr hb]
    · rw [hleft, hright]

/-!
## Exponents
-/

section Reading

variable {d : Decimal} {n : Int}

/-- Whether a decimal exponent can be read: its first digit has to have a place, and if it
is refused for its size it has to be shown. Nothing is asked of zero. -/
def CanBeRead (d : Decimal) : Prop :=
  d.coefficient ≠ 0 -> d.hasPlace = true ∧ (10 < d.leadingExponent -> d.canShow = true)

theorem wholeExponent_of_eq_zero (h : d.coefficient = 0) (op : BinaryOp) (l : Value) :
    wholeExponent op l (.decimal d) = .ok 0 :=
  if_pos (beq_iff_eq.mpr h)

theorem wholeExponent_of_canBeRead (hne : d.coefficient ≠ 0) (h : CanBeRead d)
    (op : BinaryOp) (l : Value) :
    wholeExponent op l (.decimal d) =
      if 10 < d.leadingExponent then .error (.invalidOperand op (.exponentTooLong d))
      else if 0 ≤ d.leadingExponent && d.isWhole then .ok d.truncate
      else .error (.invalidOperand op .exponentNotWhole) := by
  rcases h hne with ⟨hplace, hshow⟩
  have hzero : d.isZero = false := beq_eq_false_iff_ne.mpr hne
  unfold wholeExponent
  dsimp only
  rw [hzero, hplace, if_neg Bool.false_ne_true, Bool.not_true, if_neg Bool.false_ne_true]
  split
  · next hlong => rw [if_pos (hshow hlong)]
  · rfl

theorem wholeExponent_of_not_canBeRead (h : ¬ CanBeRead d) (op : BinaryOp) (l : Value) :
    wholeExponent op l (.decimal d) = .error .trap := by
  rw [CanBeRead] at h
  push Not at h
  rcases h with ⟨hne, h⟩
  have hzero : d.isZero = false := beq_eq_false_iff_ne.mpr hne
  unfold wholeExponent
  dsimp only
  rw [hzero, if_neg Bool.false_ne_true]
  cases hplace : d.hasPlace with
  | false => rfl
  | true =>
      rcases h hplace with ⟨hlong, hshow⟩
      rw [Bool.not_true, if_neg Bool.false_ne_true, if_pos hlong, if_neg hshow]

theorem number?_of_wholeExponent {op : BinaryOp} (h : wholeExponent op l r = .ok n) :
    r.number? = some (n : ℚ) := by
  cases r with
  | integer m =>
      cases h
      rfl
  | decimal d =>
      by_cases hzero : d.coefficient = 0
      · rw [wholeExponent_of_eq_zero hzero] at h
        cases h
        rw [number?, Decimal.toRat_eq_zero_iff.mpr hzero, Int.cast_zero]
      · by_cases hread : CanBeRead d
        · rw [wholeExponent_of_canBeRead hzero hread] at h
          split at h
          · cases h
          · split at h
            · next hwhole =>
                rw [Bool.and_eq_true] at hwhole
                rcases Decimal.isWhole_iff.mp hwhole.right with ⟨m, hm⟩
                cases h
                rw [Decimal.truncate_eq hm, number?, hm]
            · cases h
        · rw [wholeExponent_of_not_canBeRead hread] at h
          cases h
  | boolean b => cases h
  | string s => cases h
  | duration d => cases h

theorem lt_leadingExponent_iff_of_whole (h : d.toRat = n) (hn : n ≠ 0) :
    10 < d.leadingExponent <-> 10 ^ 11 ≤ n.natAbs := by
  rw [Decimal.leadingExponent_of_whole h hn,
    ← Nat.le_log_iff_pow_le (by decide) (Int.natAbs_ne_zero.mpr hn)]
  omega

theorem canBeRead_of_toRat_eq (h : d.toRat = n) (hn : n.natAbs < 10 ^ 11) : CanBeRead d := by
  intro hne
  have hnonzero : n ≠ 0 := by
    rintro rfl
    rw [Int.cast_zero] at h
    exact hne (Decimal.toRat_eq_zero_iff.mp h)
  have hshort := mt (lt_leadingExponent_iff_of_whole h hnonzero).mp (not_le.mpr hn)
  have hfront := Decimal.leadingExponent_of_whole h hnonzero
  refine ⟨?_, fun hlong => absurd hlong hshort⟩
  rw [Decimal.hasPlace, Decimal.isScale_iff]
  omega

/-- A decimal that stands for a whole number is read as that number, unless it has more than
eleven digits before the point. -/
theorem wholeExponent_of_toRat_eq (h : d.toRat = n) (hread : CanBeRead d) (op : BinaryOp)
    (l : Value) :
    wholeExponent op l (.decimal d) =
      if 10 ^ 11 ≤ n.natAbs then .error (.invalidOperand op (.exponentTooLong d)) else .ok n := by
  by_cases hn : n = 0
  · have hzero : d.coefficient = 0 := by
      rw [hn, Int.cast_zero, Decimal.toRat_eq_zero_iff] at h
      exact h
    rw [wholeExponent_of_eq_zero hzero, hn, Int.natAbs_zero, if_neg (by decide)]
  · have hne : d.coefficient ≠ 0 := by
      have hnumber : d.toRat ≠ 0 := h ▸ Int.cast_ne_zero.mpr hn
      exact mt Decimal.toRat_eq_zero_iff.mpr hnumber
    have hlead := Decimal.leadingExponent_of_whole h hn
    have hfront : 0 ≤ d.leadingExponent := by omega
    rw [wholeExponent_of_canBeRead hne hread, decide_eq_true hfront,
      Decimal.isWhole_iff.mpr ⟨n, h⟩, Decimal.truncate_eq h]
    exact if_congr (lt_leadingExponent_iff_of_whole h hn) rfl rfl

end Reading

theorem wholeExponent_of_number? {n : Int} (h : r.number? = some (n : ℚ))
    (hlimit : n.natAbs < exponentLimit) (op : BinaryOp) (l : Value) :
    wholeExponent op l r = .ok n := by
  cases r with
  | integer m => rw [wholeExponent, Int.cast_injective (Option.some.inj h)]
  | decimal d =>
      have hnumber := Option.some.inj h
      have hshort : n.natAbs < 10 ^ 11 := hlimit.trans (by decide)
      rw [wholeExponent_of_toRat_eq hnumber (canBeRead_of_toRat_eq hnumber hshort),
        if_neg (not_le.mpr hshort)]
  | boolean b => cases h
  | string s => cases h
  | duration d => cases h

theorem canBeRead_congr {a b : Decimal} (h : a.toRat = b.toRat) :
    CanBeRead a <-> CanBeRead b := by
  by_cases hzero : a.coefficient = 0
  · have hzero' := (Decimal.coefficient_eq_zero_congr h).mp hzero
    exact iff_of_true (fun hne => absurd hzero hne) fun hne => absurd hzero' hne
  · have hne := (Decimal.coefficient_eq_zero_congr h).not
    rw [CanBeRead, CanBeRead, Decimal.hasPlace_congr h hzero, Decimal.canShow_congr h hzero,
      Decimal.leadingExponent_congr h hzero, ne_eq, hne]

theorem wholeExponent_decimal_congr {a b : Decimal} (h : a.toRat = b.toRat) (op : BinaryOp)
    (l l' : Value) :
    ResultsAgree Eq (wholeExponent op l (.decimal a)) (wholeExponent op l' (.decimal b)) := by
  by_cases hzero : a.coefficient = 0
  · have hzero' := (Decimal.coefficient_eq_zero_congr h).mp hzero
    rw [wholeExponent_of_eq_zero hzero, wholeExponent_of_eq_zero hzero']
    exact .ok rfl
  · have hne := mt (Decimal.coefficient_eq_zero_congr h).mpr hzero
    by_cases hread : CanBeRead a
    · rw [wholeExponent_of_canBeRead hzero hread,
        wholeExponent_of_canBeRead hne ((canBeRead_congr h).mp hread),
        Decimal.leadingExponent_congr h hzero]
      split
      · exact .error (.exponentTooLong op h)
      · cases hwhole : a.isWhole with
        | true =>
            rw [← Decimal.isWhole_congr h, hwhole, Decimal.truncate_congr h hwhole]
            split
            · exact .ok rfl
            · exact .error (.refl _)
        | false =>
            rw [← Decimal.isWhole_congr h, hwhole, Bool.and_false]
            exact .error (.refl _)
    · rw [wholeExponent_of_not_canBeRead hread,
        wholeExponent_of_not_canBeRead (mt (canBeRead_congr h).mpr hread)]
      exact .error (.refl _)

theorem Alike.wholeExponent (hl : l.Alike l') (hr : r.Alike r') (op : BinaryOp) :
    ResultsAgree Eq (wholeExponent op l r) (wholeExponent op l' r') := by
  have hunsupported := hl.unsupported_eq hr op
  cases hr with
  | decimal hnumber => exact wholeExponent_decimal_congr hnumber op l l'
  | refl _ =>
      cases r with
      | integer n => exact .ok rfl
      | decimal d => exact wholeExponent_decimal_congr rfl op l l'
      | boolean b => exact .error (hunsupported ▸ .refl _)
      | string s => exact .error (hunsupported ▸ .refl _)
      | duration d => exact .error (hunsupported ▸ .refl _)

/-!
## Powers

A power is refused if the exponent that is foreseen for its first digit is too large.
That of a zero is foreseen from its scale.
-/

/-- The decimal exponent that is foreseen for a power. -/
def foreseenExponent (base : Decimal) (exponent : Int) : Nat :=
  (base.leadingExponent.natAbs + 1) * exponent.natAbs

section Foreseen

variable {a b : Decimal} {exponent : Int}

theorem foreseenExponent_of_eq_zero (h : a.coefficient = 0) (exponent : Int) :
    foreseenExponent a exponent = (a.scale.natAbs + 1) * exponent.natAbs := by
  rw [foreseenExponent, Decimal.leadingExponent_of_eq_zero h, Int.natAbs_neg]

theorem decimalPower_of_not_hasPlace (h : ¬ a.hasPlace = true) (op : BinaryOp)
    (exponent : Int) : decimalPower op a exponent = .error .trap := by
  unfold decimalPower
  dsimp only
  rw [Bool.eq_false_iff.mpr h]
  rfl

theorem decimalPower_of_hasPlace (h : a.hasPlace = true) (op : BinaryOp) (exponent : Int) :
    decimalPower op a exponent =
      if maxDecimalExponent < foreseenExponent a exponent then .error (.overflow op)
      else if exponent < 0 then quotientResult (a.power exponent.natAbs).inverse?
      else .ok (.decimal (a.power exponent.natAbs)) := by
  unfold decimalPower
  dsimp only
  rw [h]
  rfl

theorem decimalPower_of_lt (hplace : a.hasPlace = true)
    (h : maxDecimalExponent < foreseenExponent a exponent) (op : BinaryOp) :
    decimalPower op a exponent = .error (.overflow op) := by
  rw [decimalPower_of_hasPlace hplace, if_pos h]

theorem decimalPower_of_le (hplace : a.hasPlace = true)
    (h : foreseenExponent a exponent ≤ maxDecimalExponent) (op : BinaryOp) :
    decimalPower op a exponent =
      if exponent < 0 then quotientResult (a.power exponent.natAbs).inverse?
      else .ok (.decimal (a.power exponent.natAbs)) := by
  rw [decimalPower_of_hasPlace hplace, if_neg (not_lt.mpr h)]

/-- Powers of one number are alike if both first digits have places or neither has, and what
is foreseen for the powers is refused for both or for neither. -/
theorem alike_decimalPower (h : a.toRat = b.toRat)
    (hplace : a.hasPlace = true <-> b.hasPlace = true)
    (hforeseen : maxDecimalExponent < foreseenExponent a exponent <->
      maxDecimalExponent < foreseenExponent b exponent) (op : BinaryOp) :
    AlikeResults (decimalPower op a exponent) (decimalPower op b exponent) := by
  by_cases ha : a.hasPlace = true
  · have hb := hplace.mp ha
    by_cases hlarge : maxDecimalExponent < foreseenExponent a exponent
    · rw [decimalPower_of_lt ha hlarge, decimalPower_of_lt hb (hforeseen.mp hlarge)]
      exact .error _
    · rw [decimalPower_of_le ha (not_lt.mp hlarge),
        decimalPower_of_le hb (not_lt.mp (mt hforeseen.mpr hlarge)),
        Decimal.inverse?_power_congr h]
      split
      · exact .refl _
      · exact .ok (.decimal (Decimal.toRat_power_congr h _))
  · rw [decimalPower_of_not_hasPlace ha, decimalPower_of_not_hasPlace (mt hplace.mpr ha)]
    exact .error _

/-- Whether a power of zero traps or is refused, as too large, for the scale of the zero. -/
def RefusesZero (l r : Value) : Prop :=
  exists (zero : Decimal) (exponent : Int), l = .decimal zero ∧ zero.coefficient = 0 ∧
    r.number? = some (exponent : ℚ) ∧ exponent.natAbs < exponentLimit ∧
      (zero.hasPlace = true -> maxDecimalExponent < (zero.scale.natAbs + 1) * exponent.natAbs)

theorem not_refusesZero_of_ne_zero (h : a.coefficient ≠ 0) :
    ¬ RefusesZero (.decimal a) r := by
  rintro ⟨zero, exponent, heq, hzero, -⟩
  cases heq
  exact h hzero

theorem foreseenExponent_le_of_eq_zero (hzero : a.coefficient = 0)
    (hexponent : r.number? = some (exponent : ℚ)) (hlimit : exponent.natAbs < exponentLimit)
    (h : ¬ RefusesZero (.decimal a) r) :
    a.hasPlace = true ∧ foreseenExponent a exponent ≤ maxDecimalExponent := by
  rw [foreseenExponent_of_eq_zero hzero]
  by_contra hnot
  refine h ⟨a, exponent, rfl, hzero, hexponent, hlimit, fun hplace => ?_⟩
  exact not_le.mp fun hle => hnot ⟨hplace, hle⟩

theorem foreseenExponent_congr (h : a.toRat = b.toRat) (hne : a.coefficient ≠ 0)
    (exponent : Int) : foreseenExponent a exponent = foreseenExponent b exponent := by
  rw [foreseenExponent, foreseenExponent, Decimal.leadingExponent_congr h hne]

end Foreseen

theorem Alike.pow (hl : l.Alike l') (hr : r.Alike r') (h : ¬ RefusesZero l r)
    (h' : ¬ RefusesZero l' r') : ResultsAgree Alike (pow .pow l r) (pow .pow l' r') := by
  have hunsupported := hl.unsupported_eq hr .pow
  have hexponents := hl.wholeExponent hr .pow
  unfold Value.pow
  generalize hread : Value.wholeExponent .pow l r = exponent at hexponents
  generalize hread' : Value.wholeExponent .pow l' r' = exponent' at hexponents
  cases hexponents with
  | error herror => exact .error herror
  | @ok n _ heq =>
      subst heq
      dsimp only
      split
      · exact .error (.refl _)
      · next hlimit =>
          cases hl with
          | @decimal a b hnumber =>
              have hexponent := number?_of_wholeExponent hread
              have hexponent' := number?_of_wholeExponent hread'
              have hsmall := not_le.mp hlimit
              apply AlikeResults.agree
              by_cases hzero : a.coefficient = 0
              · have hzero' := (Decimal.coefficient_eq_zero_congr hnumber).mp hzero
                rcases foreseenExponent_le_of_eq_zero hzero hexponent hsmall h with
                  ⟨hplace, hle⟩
                rcases foreseenExponent_le_of_eq_zero hzero' hexponent' hsmall h' with
                  ⟨hplace', hle'⟩
                exact alike_decimalPower hnumber (iff_of_true hplace hplace')
                  (iff_of_false (not_lt.mpr hle) (not_lt.mpr hle')) .pow
              · apply alike_decimalPower hnumber _ _ .pow
                · rw [Decimal.hasPlace_congr hnumber hzero]
                · rw [foreseenExponent_congr hnumber hzero]
          | refl _ =>
              cases l with
              | integer m => exact (AlikeResults.refl _).agree
              | decimal d => exact (AlikeResults.refl _).agree
              | boolean b => exact .error (hunsupported ▸ .refl _)
              | string s => exact .error (hunsupported ▸ .refl _)
              | duration d => exact .error (hunsupported ▸ .refl _)

theorem pow_of_refusesZero (h : RefusesZero l r) :
    Value.pow .pow l r = .error (.overflow .pow) ∨ Value.pow .pow l r = .error .trap := by
  rcases h with ⟨zero, exponent, rfl, hzero, hnumber, hlimit, hlarge⟩
  rw [← foreseenExponent_of_eq_zero hzero] at hlarge
  rw [Value.pow, wholeExponent_of_number? hnumber hlimit]
  dsimp only
  rw [if_neg (not_le.mpr hlimit)]
  by_cases hplace : zero.hasPlace = true
  · exact .inl (decimalPower_of_lt hplace (hlarge hplace) .pow)
  · exact .inr (decimalPower_of_not_hasPlace hplace .pow exponent)

/-!
## Applying both
-/

/-- Division and powers cannot tell alike operands apart where quotients are rounded once
and no power of zero is refused, unless a division traps. Where a quotient is rounded twice
they still fail alike, and a power of zero that is refused is too large or traps. -/
theorem agree_div_and_agree_pow (hl : l.Alike l') (hr : r.Alike r') :
    (l.apply .div r ≠ .error .trap -> l'.apply .div r' ≠ .error .trap ->
        DividesOnce l r -> DividesOnce l' r' ->
        ResultsAgree Alike (l.apply .div r) (l'.apply .div r')) ∧
      (forall e, e ≠ .trap -> (l.apply .div r = .error e <-> l'.apply .div r' = .error e)) ∧
      (¬ RefusesZero l r -> ¬ RefusesZero l' r' ->
        ResultsAgree Alike (l.apply .pow r) (l'.apply .pow r')) ∧
      (RefusesZero l r ->
        l.apply .pow r = .error (.overflow .pow) ∨ l.apply .pow r = .error .trap) := by
  have hunsupported := hl.unsupported_eq hr
  unfold Value.apply
  rw [← hl.kind_eq]
  refine ⟨?_, ?_, ?_, ?_⟩
  · intro htrap htrap' h h'
    split
    · next hsupports =>
        rw [if_pos hsupports] at htrap htrap'
        exact (hl.div hr h h' htrap htrap').agree
    · rw [hunsupported]
      exact .error (.refl _)
  · intro e he
    split
    · exact hl.div_eq_error_iff hr he
    · rw [hunsupported]
  · intro h h'
    split
    · exact hl.pow hr h h'
    · rw [hunsupported]
      exact .error (.refl _)
  · intro h
    rcases h with ⟨zero, exponent, rfl, hrefused⟩
    exact pow_of_refusesZero ⟨zero, exponent, rfl, hrefused⟩

end Alike

/-- Two with one place and with three, divided by three and raised to its power. -/
theorem agree_div_and_agree_pow_of_places :
    let l : Value := .decimal ⟨20, 1⟩
    let l' : Value := .decimal ⟨2000, 3⟩
    let r : Value := .integer 3
    l.Alike l' ∧ r.Alike r ∧ (DividesOnce l r ∧ DividesOnce l' r) ∧
      (¬ RefusesZero l r ∧ ¬ RefusesZero l' r) ∧
      ResultsAgree Alike (l.apply .div r) (l'.apply .div r) ∧
      ResultsAgree Alike (l.apply .pow r) (l'.apply .pow r) := by
  intro l l' r
  have hl : l.Alike l' := .decimal (by norm_num [Decimal.toRat])
  have hr : r.Alike r := .refl r
  have honce : DividesOnce l r := by
    rintro - a b ⟨⟩
    exact .inr (by decide)
  have honce' : DividesOnce l' r := by
    rintro - a b ⟨⟩
    exact .inr (by decide)
  have hzero : ¬ RefusesZero l r := not_refusesZero_of_ne_zero (by decide)
  have hzero' : ¬ RefusesZero l' r := not_refusesZero_of_ne_zero (by decide)
  have htrap : l.apply .div r ≠ .error .trap := by decide +kernel
  have htrap' : l'.apply .div r ≠ .error .trap := by decide +kernel
  rcases agree_div_and_agree_pow hl hr with ⟨hdiv, -, hpow, -⟩
  exact ⟨hl, hr, ⟨honce, honce'⟩, ⟨hzero, hzero'⟩, hdiv htrap htrap' honce honce',
    hpow hzero hzero'⟩

/-- A number of a hundred and one digits, divided with and without a zero behind its
point, and two zeros raised to the power of one. -/
theorem spellings_told_apart :
    let short : Value := .decimal ⟨5 * 10 ^ 100 + 23, 0⟩
    let long : Value := .decimal ⟨5 * 10 ^ 101 + 230, 1⟩
    let zero : Value := .decimal ⟨0, 1⟩
    let wide : Value := .decimal ⟨0, -1099511627776⟩
    (short.Alike long ∧
      ¬ ResultsAgree Alike (short.apply .div (.integer 5)) (long.apply .div (.integer 5))) ∧
      zero.Alike wide ∧
      ¬ ResultsAgree Alike (zero.apply .pow (.integer 1)) (wide.apply .pow (.integer 1)) := by
  intro short long zero wide
  -- the one coefficient is rounded to a whole number first, the other one only at the end
  have hshort : short.apply .div (.integer 5) = .ok (.decimal ⟨10 ^ 99 + 1, -1⟩) := by
    decide +kernel
  have hlong : long.apply .div (.integer 5) = .ok (.decimal ⟨10 ^ 99, -1⟩) := by
    decide +kernel
  have hzero : zero.apply .pow (.integer 1) = .ok (.decimal ⟨0, 99⟩) := by decide +kernel
  have hwide : wide.apply .pow (.integer 1) = .error (.overflow .pow) := by decide +kernel
  refine ⟨⟨.decimal ?_, ?_⟩, .decimal ?_, ?_⟩
  · norm_num [Decimal.toRat]
  · rw [hshort, hlong]
    rintro (_ | hvalues)
    cases hvalues with
    | decimal hnumber => norm_num [Decimal.toRat] at hnumber
  · rw [Decimal.toRat_eq_zero_iff.mpr rfl, Decimal.toRat_eq_zero_iff.mpr rfl]
  · rw [hzero, hwide]
    intro hpow
    cases hpow

end Value
end Reckon
