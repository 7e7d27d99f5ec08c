import Reckon.Proofs.Value.Exponents

/-!
# Kinds of operands and of results

Whether an operator applies to two values is told by their kinds alone, although some of
their contents are looked at first. Where it applies, the kind of its result is known as
well, and it fails only in the ways that are its own: divisions and powers by zero,
products, powers, shifts and durations by their size, powers and shifts by their right
operand. It traps only if a decimal is among its operands.
-/

namespace Reckon

/-!
## Which operators apply
-/

/-- What the kinds of two operands have in common. -/
inductive Pairing where
  | integers
  /-- Two numbers with a decimal among them. -/
  | decimals
  | booleans
  | strings
  | durations
  /-- Two kinds that no operator brings together. -/
  | unlike
  deriving DecidableEq, Repr

def Kind.pairing : Kind -> Kind -> Pairing
  | .integer, .integer => .integers
  | .integer, .decimal | .decimal, .integer | .decimal, .decimal => .decimals
  | .boolean, .boolean => .booleans
  | .string, .string => .strings
  | .duration, .duration => .durations
  | _, _ => .unlike

namespace Pairing

/-- The operators that apply to operands of two kinds. -/
def Takes (op : BinaryOp) : Pairing -> Prop
  | .integers => op.family = .arithmetic ∨ op.family = .bitwise ∨ op.family = .comparison
  | .decimals => op.family = .arithmetic ∨ op.family = .comparison
  | .booleans => op = .and ∨ op = .or ∨ op = .eq ∨ op = .ne
  | .strings => op = .add ∨ op.family = .comparison
  | .durations => op = .add ∨ op = .sub ∨ op.family = .comparison
  | .unlike => False

instance (op : BinaryOp) (pairing : Pairing) : Decidable (pairing.Takes op) :=
  match pairing with
  | .integers => inferInstanceAs (Decidable (_ ∨ _ ∨ _))
  | .decimals => inferInstanceAs (Decidable (_ ∨ _))
  | .booleans => inferInstanceAs (Decidable (_ ∨ _ ∨ _ ∨ _))
  | .strings => inferInstanceAs (Decidable (_ ∨ _))
  | .durations => inferInstanceAs (Decidable (_ ∨ _ ∨ _))
  | .unlike => inferInstanceAs (Decidable False)

section Families

variable {op : BinaryOp} {pairing : Pairing}

theorem eq_integers_of_takes (hop : op.family = .bitwise) (h : pairing.Takes op) :
    pairing = .integers := by
  revert hop h
  cases pairing <;> cases op <;> decide

theorem eq_booleans_of_takes (hop : op.family = .logical) (h : pairing.Takes op) :
    pairing = .booleans := by
  revert hop h
  cases pairing <;> cases op <;> decide

end Families

end Pairing

/-- The table of operators by their left operands leaves out none that applies. -/
theorem Kind.supports_of_takes {op : BinaryOp} {left right : Kind}
    (h : (left.pairing right).Takes op) : left.supports op = true := by
  revert h
  -- Neither table follows from the other; they are compared entry by entry.
  cases left <;> cases right <;> cases op <;> decide

/-- The errors that an operator can come to where it applies. -/
inductive OwnFailure (op : BinaryOp) : Pairing -> EvalError -> Prop where
  | divisionByZero {pairing : Pairing} :
      op = .div ∨ op = .pow -> OwnFailure op pairing .divisionByZero
  | overflow {pairing : Pairing} :
      op = .pow ∨ op = .shiftLeft -> OwnFailure op pairing (.overflow op)
  | overflowOfIntegers : op = .mul -> OwnFailure op .integers (.overflow op)
  | overflowOfDurations : op = .add ∨ op = .sub -> OwnFailure op .durations (.overflow op)
  | invalidOperand {pairing : Pairing} (fault : OperandFault) :
      op = .pow ∨ op = .shiftLeft ∨ op = .shiftRight ->
      OwnFailure op pairing (.invalidOperand op fault)

namespace OwnFailure

variable {op : BinaryOp} {pairing : Pairing} {e : EvalError}

theorem ne_unsupported {other : BinaryOp} {left right : Kind} (h : OwnFailure op pairing e) :
    e ≠ .unsupported other left right := by
  cases h <;> nofun

theorem ne_tooDeep {limit : Nat} (h : OwnFailure op pairing e) : e ≠ .tooDeep limit := by
  cases h <;> nofun

end OwnFailure

namespace Value

def pairing (l r : Value) : Pairing :=
  l.kind.pairing r.kind

/-- The kind of what an operator results in. A power of an integer is an integer if the
exponent is neither negative nor a fraction, of whichever kind it is. -/
def resultKind (op : BinaryOp) (l r : Value) : Kind :=
  if op.family = .comparison ∨ op.family = .logical then .boolean
  else
    match l, r with
    | .string _, .string _ => .string
    | .duration _, .duration _ => .duration
    | .integer _, .integer n => if op = .pow ∧ n < 0 then .decimal else .integer
    | .integer _, .decimal d =>
        if op = .pow ∧ d.toRat.isInt ∧ 0 ≤ d.toRat then .integer else .decimal
    | _, _ => .decimal

/-- A result as it is told by the kinds of the operands. -/
inductive Typed (op : BinaryOp) (l r : Value) : Except EvalError Value -> Prop where
  | ok {v : Value} :
      (pairing l r).Takes op -> v.kind = resultKind op l r -> Typed op l r (.ok v)
  | error {e : EvalError} :
      (pairing l r).Takes op -> OwnFailure op (pairing l r) e -> Typed op l r (.error e)
  | trap :
      (pairing l r).Takes op -> pairing l r = .decimals -> Typed op l r (.error .trap)
  | unsupported : ¬ (pairing l r).Takes op -> Typed op l r (.error (unsupported op l r))

section Operators

variable {op : BinaryOp} {l r : Value}

/-!
## Pairs of values
-/

/-- Two values that some operator brings together. -/
inductive Paired : Value -> Value -> Prop where
  | integers (a b : Int) : Paired (.integer a) (.integer b)
  | integerDecimal (a : Int) (b : Decimal) : Paired (.integer a) (.decimal b)
  | decimalInteger (a : Decimal) (b : Int) : Paired (.decimal a) (.integer b)
  | decimals (a b : Decimal) : Paired (.decimal a) (.decimal b)
  | booleans (a b : Bool) : Paired (.boolean a) (.boolean b)
  | strings (a b : String) : Paired (.string a) (.string b)
  | durations (a b : Duration) : Paired (.duration a) (.duration b)

theorem paired_or_unlike (l r : Value) : Paired l r ∨ pairing l r = .unlike := by
  cases l with
  | integer a =>
      cases r with
      | integer b => exact .inl (.integers a b)
      | decimal b => exact .inl (.integerDecimal a b)
      | boolean _ | string _ | duration _ => exact .inr rfl
  | decimal a =>
      cases r with
      | integer b => exact .inl (.decimalInteger a b)
      | decimal b => exact .inl (.decimals a b)
      | boolean _ | string _ | duration _ => exact .inr rfl
  | boolean a =>
      cases r with
      | boolean b => exact .inl (.booleans a b)
      | integer _ | decimal _ | string _ | duration _ => exact .inr rfl
  | string a =>
      cases r with
      | string b => exact .inl (.strings a b)
      | integer _ | decimal _ | boolean _ | duration _ => exact .inr rfl
  | duration a =>
      cases r with
      | duration b => exact .inl (.durations a b)
      | integer _ | decimal _ | boolean _ | string _ => exact .inr rfl

theorem apply_of_unlike (h : pairing l r = .unlike) (op : BinaryOp) :
    l.apply op r = .error (unsupported op l r) := by
  cases l <;> cases r <;> first | (cases op <;> rfl) | cases h

/-!
## Arithmetic
-/

theorem typed_durationResult (hop : op = .add ∨ op = .sub) (a b : Duration)
    (d? : Option Duration) : Typed op (.duration a) (.duration b) (durationResult op d?) := by
  have htakes : Pairing.durations.Takes op := hop.imp_right .inl
  cases d? with
  | none => exact .error htakes (.overflowOfDurations hop)
  | some d =>
      apply Typed.ok htakes
      rcases hop with rfl | rfl <;> rfl

theorem typed_decimalResult (hop : op.family = .arithmetic) (hpairing : pairing l r = .decimals)
    (hkind : resultKind op l r = .decimal) (d? : Option Decimal) :
    Typed op l r (decimalResult d?) := by
  have htakes : (pairing l r).Takes op := hpairing ▸ .inl hop
  cases d? with
  | none => exact .trap htakes hpairing
  | some d => exact .ok htakes hkind.symm

theorem typed_quotientResult (hop : op = .div ∨ op = .pow) (htakes : (pairing l r).Takes op)
    (hkind : resultKind op l r = .decimal) (d? : Option Decimal) :
    Typed op l r (quotientResult d?) := by
  cases d? with
  | none => exact .error htakes (.divisionByZero hop)
  | some d => exact .ok htakes hkind.symm

theorem typed_decimalQuotient (hpairing : pairing l r = .decimals) (a b : Decimal)
    (hkind : resultKind .div l r = .decimal) : Typed .div l r (decimalQuotient a b) := by
  have htakes : (pairing l r).Takes .div := hpairing ▸ .inl rfl
  unfold decimalQuotient
  split
  · exact typed_quotientResult (.inl rfl) htakes hkind _
  · exact .trap htakes hpairing

theorem typed_add (h : Paired l r) : Typed .add l r (add .add l r) := by
  cases h with
  | integers _ _ => exact .ok (.inl rfl) rfl
  | integerDecimal _ _ | decimalInteger _ _ | decimals _ _ =>
      exact typed_decimalResult rfl rfl rfl _
  | booleans _ _ => exact .unsupported (by decide : ¬ Pairing.booleans.Takes .add)
  | strings _ _ => exact .ok (.inl rfl) rfl
  | durations a b => exact typed_durationResult (.inl rfl) a b _

theorem typed_sub (h : Paired l r) : Typed .sub l r (sub .sub l r) := by
  cases h with
  | integers _ _ => exact .ok (.inl rfl) rfl
  | integerDecimal _ _ | decimalInteger _ _ | decimals _ _ =>
      exact typed_decimalResult rfl rfl rfl _
  | booleans _ _ => exact .unsupported (by decide : ¬ Pairing.booleans.Takes .sub)
  | strings _ _ => exact .unsupported (by decide : ¬ Pairing.strings.Takes .sub)
  | durations a b => exact typed_durationResult (.inr rfl) a b _

theorem typed_mul (h : Paired l r) : Typed .mul l r (mul .mul l r) := by
  cases h with
  | integers a b =>
      rw [mul]
      split
      · exact .error (.inl rfl) (.overflowOfIntegers rfl)
      · exact .ok (.inl rfl) rfl
  | integerDecimal _ _ | decimalInteger _ _ | decimals _ _ =>
      exact typed_decimalResult rfl rfl rfl _
  | booleans _ _ => exact .unsupported (by decide : ¬ Pairing.booleans.Takes .mul)
  | strings _ _ => exact .unsupported (by decide : ¬ Pairing.strings.Takes .mul)
  | durations _ _ => exact .unsupported (by decide : ¬ Pairing.durations.Takes .mul)

theorem typed_div (h : Paired l r) : Typed .div l r (div .div l r) := by
  cases h with
  | integers a b =>
      rw [div]
      split
      · exact .error (.inl rfl) (.divisionByZero (.inl rfl))
      · exact .ok (.inl rfl) rfl
  | integerDecimal _ _ | decimalInteger _ _ | decimals _ _ =>
      exact typed_decimalQuotient rfl _ _ rfl
  | booleans _ _ => exact .unsupported (by decide : ¬ Pairing.booleans.Takes .div)
  | strings _ _ => exact .unsupported (by decide : ¬ Pairing.strings.Takes .div)
  | durations _ _ => exact .unsupported (by decide : ¬ Pairing.durations.Takes .div)

/-!
## Powers
-/

theorem ownFailure_of_wholeExponent {d : Decimal} {e : EvalError}
    (h : wholeExponent .pow l (.decimal d) = .error e) (pairing : Pairing) :
    e = .trap ∨ OwnFailure .pow pairing e := by
  by_cases hzero : d.coefficient = 0
  · rw [wholeExponent_of_eq_zero hzero] at h
    cases h
  · by_cases hread : CanBeRead d
    · rw [wholeExponent_of_canBeRead hzero hread] at h
      split at h
      · cases h
        exact .inr (.invalidOperand _ (.inl rfl))
      · split at h
        · cases h
        · cases h
          exact .inr (.invalidOperand _ (.inl rfl))
    · rw [wholeExponent_of_not_canBeRead hread] at h
      exact .inl (Except.error.inj h).symm

theorem typed_of_wholeExponent {x y : ℚ} {e : EvalError} (hl : l.number? = some x)
    (hr : r.number? = some y) (htakes : (pairing l r).Takes .pow)
    (h : wholeExponent .pow l r = .error e) : Typed .pow l r (.error e) := by
  cases r with
  | integer n => cases h
  | decimal d =>
      have hpairing : pairing l (.decimal d) = .decimals := by
        cases l with
        | integer _ | decimal _ => rfl
        | boolean _ | string _ | duration _ => cases hl
      rcases ownFailure_of_wholeExponent h (pairing l (.decimal d)) with rfl | hown
      · exact .trap htakes hpairing
      · exact .error htakes hown
  | boolean _ | string _ | duration _ => cases hr

theorem resultKind_pow_integer {n : Int} (hr : r.number? = some (n : ℚ)) (a : Int) :
    resultKind .pow (.integer a) r = if n < 0 then .decimal else .integer := by
  unfold resultKind
  rw [if_neg (by decide)]
  cases r with
  | integer m =>
      have hm : m = n := by exact_mod_cast Option.some.inj hr
      rw [hm]
      exact if_congr (and_iff_right rfl) rfl rfl
  | decimal d =>
      have hd : d.toRat = n := Option.some.inj hr
      have hwhole : (n : ℚ).isInt = true := rfl
      have hnatural : (BinaryOp.pow = .pow ∧ d.toRat.isInt = true ∧ 0 ≤ d.toRat) <-> ¬ n < 0 := by
        rw [and_iff_right rfl, hd, and_iff_right hwhole, Int.cast_nonneg_iff, Int.not_lt]
      exact (if_congr hnatural rfl rfl).trans (ite_not ..)
  | boolean _ | string _ | duration _ => cases hr

theorem typed_integerPower {a n : Int} (htakes : (pairing (.integer a) r).Takes .pow)
    (hr : r.number? = some (n : ℚ)) : Typed .pow (.integer a) r (integerPower .pow a n) := by
  have hkind := resultKind_pow_integer hr a
  unfold integerPower
  dsimp only
  split
  · exact .error htakes (.overflow (.inl rfl))
  · split
    · next hnegative =>
        rw [if_pos hnegative] at hkind
        exact typed_quotientResult (.inr rfl) htakes hkind _
    · next hnonneg =>
        rw [if_neg hnonneg] at hkind
        exact .ok htakes hkind.symm

theorem typed_decimalPower {base : Decimal} {y : ℚ} (hr : r.number? = some y)
    (htakes : (pairing (.decimal base) r).Takes .pow) (n : Int) :
    Typed .pow (.decimal base) r (decimalPower .pow base n) := by
  by_cases hplace : base.hasPlace = true
  · rw [decimalPower_of_hasPlace hplace]
    split
    · exact .error htakes (.overflow (.inl rfl))
    · split
      · exact typed_quotientResult (.inr rfl) htakes rfl _
      · exact .ok htakes rfl
  · rw [decimalPower_of_not_hasPlace hplace]
    apply Typed.trap htakes
    cases r with
    | integer _ | decimal _ => rfl
    | boolean _ | string _ | duration _ => cases hr

theorem typed_pow_of_number? {x y : ℚ} (hl : l.number? = some x) (hr : r.number? = some y)
    (htakes : (pairing l r).Takes .pow) : Typed .pow l r (pow .pow l r) := by
  -- The exponent is read before the base is looked at, so both have to be numbers here.
  unfold pow
  split
  · next hread => exact typed_of_wholeExponent hl hr htakes hread
  · next n hread =>
      split
      · exact .error htakes (.invalidOperand _ (.inl rfl))
      · cases l with
        | integer a => exact typed_integerPower htakes (number?_of_wholeExponent hread)
        | decimal base => exact typed_decimalPower hr htakes n
        | boolean _ | string _ | duration _ => cases hl

theorem typed_pow (h : Paired l r) : Typed .pow l r (pow .pow l r) := by
  cases h with
  | integers _ _ | integerDecimal _ _ | decimalInteger _ _ | decimals _ _ =>
      exact typed_pow_of_number? rfl rfl (.inl rfl)
  | booleans _ _ => exact .unsupported (by decide : ¬ Pairing.booleans.Takes .pow)
  | strings _ _ => exact .unsupported (by decide : ¬ Pairing.strings.Takes .pow)
  | durations _ _ => exact .unsupported (by decide : ¬ Pairing.durations.Takes .pow)

/-!
## Bits, truth and order
-/

theorem typed_shiftLeft (a b : Int) (count : Nat) :
    Typed .shiftLeft (.integer a) (.integer b) (shiftLeft .shiftLeft a count) := by
  have htakes : Pairing.integers.Takes .shiftLeft := by decide
  unfold shiftLeft
  split
  · exact .error htakes (.overflow (.inr rfl))
  · exact .ok htakes rfl

theorem ownFailure_of_shiftCount {count : Int} {e : EvalError}
    (hop : op = .shiftLeft ∨ op = .shiftRight) (h : shiftCount op count = .error e)
    (pairing : Pairing) : OwnFailure op pairing e := by
  unfold shiftCount at h
  split at h
  · cases h
  · cases h
    exact .invalidOperand _ (.inr hop)

theorem typed_bitwise (hop : op.family = .bitwise) (h : Paired l r) :
    Typed op l r (bitwise op l r) := by
  have hunsupported (hne : pairing l r ≠ .integers) : ¬ (pairing l r).Takes op :=
    mt (Pairing.eq_integers_of_takes hop) hne
  cases h with
  | integers a b =>
      have htakes : Pairing.integers.Takes op := .inr (.inl hop)
      cases op with
      | bitAnd | bitOr | bitXor => exact .ok htakes rfl
      | shiftLeft =>
          unfold bitwise
          dsimp only
          split
          · exact typed_shiftLeft a b _
          · next hcount => exact .error htakes (ownFailure_of_shiftCount (.inl rfl) hcount _)
      | shiftRight =>
          unfold bitwise
          dsimp only
          split
          · exact .ok htakes rfl
          · next hcount => exact .error htakes (ownFailure_of_shiftCount (.inr rfl) hcount _)
      | add | sub | mul | div | pow | and | or | eq | ne | lt | le | gt | ge => cases hop
  | integerDecimal _ _ | decimalInteger _ _ | decimals _ _ =>
      exact .unsupported (hunsupported nofun)
  | booleans _ _ | strings _ _ | durations _ _ => exact .unsupported (hunsupported nofun)

theorem typed_logical (hop : op.family = .logical) (h : Paired l r) :
    Typed op l r (logical op l r) := by
  have hunsupported (hne : pairing l r ≠ .booleans) : ¬ (pairing l r).Takes op :=
    mt (Pairing.eq_booleans_of_takes hop) hne
  cases h with
  | booleans a b =>
      cases op with
      | and => exact .ok (.inl rfl) rfl
      | or => exact .ok (.inr (.inl rfl)) rfl
      | add | sub | mul | div | pow => cases hop
      | bitAnd | bitOr | bitXor | shiftLeft | shiftRight => cases hop
      | eq | ne | lt | le | gt | ge => cases hop
  | integerDecimal _ _ | decimalInteger _ _ | decimals _ _ =>
      exact .unsupported (hunsupported nofun)
  | integers _ _ | strings _ _ | durations _ _ => exact .unsupported (hunsupported nofun)

theorem exists_holds? (hop : op.family = .comparison) (order : Ordering) :
    exists answer, holds? op order = some answer := by
  cases op with
  | eq | ne | lt | le | gt | ge => exact ⟨_, rfl⟩
  | add | sub | mul | div | pow => cases hop
  | bitAnd | bitOr | bitXor | shiftLeft | shiftRight => cases hop
  | and | or => cases hop

theorem typed_of_ordering {order : Ordering} (hop : op.family = .comparison)
    (htakes : (pairing l r).Takes op) (h : ordering op l r = .ok order) :
    Typed op l r (comparison op l r) := by
  rcases exists_holds? hop order with ⟨answer, hanswer⟩
  rw [comparison, h]
  dsimp only
  rw [hanswer]
  exact .ok htakes (if_pos (.inl hop)).symm

theorem typed_of_decimals (hop : op.family = .comparison) (hpairing : pairing l r = .decimals)
    {a b : Decimal} (h : ordering op l r = orderResult (a.compare? b)) :
    Typed op l r (comparison op l r) := by
  have htakes : (pairing l r).Takes op := hpairing ▸ .inr hop
  cases horder : a.compare? b with
  | some order => exact typed_of_ordering hop htakes (h.trans (congrArg orderResult horder))
  | none =>
      rw [comparison, h, horder]
      exact .trap htakes hpairing

theorem typed_comparison (hop : op.family = .comparison) (h : Paired l r) :
    Typed op l r (comparison op l r) := by
  cases h with
  | integers _ _ => exact typed_of_ordering hop (.inr (.inr hop)) rfl
  | integerDecimal _ _ | decimalInteger _ _ | decimals _ _ =>
      exact typed_of_decimals hop rfl rfl
  | booleans a b =>
      cases op with
      | eq => exact typed_of_ordering hop (.inr (.inr (.inl rfl))) rfl
      | ne => exact typed_of_ordering hop (.inr (.inr (.inr rfl))) rfl
      | lt | le | gt | ge =>
          apply Typed.unsupported
          change ¬ Pairing.booleans.Takes _
          decide
      | add | sub | mul | div | pow => cases hop
      | bitAnd | bitOr | bitXor | shiftLeft | shiftRight => cases hop
      | and | or => cases hop
  | strings _ _ => exact typed_of_ordering hop (.inr hop) rfl
  | durations _ _ => exact typed_of_ordering hop (.inr (.inr hop)) rfl

/-!
## Every operator
-/

theorem typed_perform (op : BinaryOp) (h : Paired l r) : Typed op l r (perform op l r) := by
  cases op with
  | add => exact typed_add h
  | sub => exact typed_sub h
  | mul => exact typed_mul h
  | div => exact typed_div h
  | pow => exact typed_pow h
  | bitAnd | bitOr | bitXor | shiftLeft | shiftRight => exact typed_bitwise rfl h
  | and | or => exact typed_logical rfl h
  | eq | ne | lt | le | gt | ge => exact typed_comparison rfl h

theorem typed_apply (op : BinaryOp) (l r : Value) : Typed op l r (l.apply op r) := by
  rcases paired_or_unlike l r with h | h
  · unfold apply
    split
    · exact typed_perform op h
    · next hsupports => exact .unsupported (mt Kind.supports_of_takes hsupports)
  · rw [apply_of_unlike h]
    apply Typed.unsupported
    rw [h]
    exact id

theorem apply_ne_tooDeep {limit : Nat} : l.apply op r ≠ .error (.tooDeep limit) := by
  intro h
  have htyped := typed_apply op l r
  rw [h] at htyped
  cases htyped with
  | error _ hown => exact OwnFailure.ne_tooDeep hown rfl

theorem applyStep_ne_tooDeep {step : StepOp} {limit : Nat} :
    l.applyStep step ≠ .error (.tooDeep limit) := by
  cases l with
  | integer n => nofun
  | decimal d =>
      show decimalResult (d.sum? (Decimal.ofInt step.delta)) ≠ _
      cases d.sum? (Decimal.ofInt step.delta) <;> nofun
  | boolean _ | string _ | duration _ => nofun

/-- An operator is refused for the kinds of its operands exactly if these are in no row of
the table of kinds. Otherwise its result is of the kind that is known beforehand, or an
error of its own, unless it traps, which it can only over a decimal. -/
theorem apply_told_by_kinds (op : BinaryOp) (l r : Value) :
    (l.apply op r = .error (.unsupported op l.kind r.kind) <->
        ¬ (l.kind.pairing r.kind).Takes op) ∧
      ((l.kind.pairing r.kind).Takes op ->
        (forall v, l.apply op r = .ok v -> v.kind = resultKind op l r) ∧
          forall e, l.apply op r = .error e ->
            OwnFailure op (l.kind.pairing r.kind) e ∨
              e = .trap ∧ l.kind.pairing r.kind = .decimals) := by
  have htyped := typed_apply op l r
  generalize l.apply op r = result at htyped
  cases htyped with
  | ok htakes hkind =>
      constructor
      · exact iff_of_false nofun (not_not.mpr htakes)
      · intro _
        constructor
        · rintro v ⟨⟩
          exact hkind
        · rintro e ⟨⟩
  | error htakes hown =>
      constructor
      · apply iff_of_false _ (not_not.mpr htakes)
        rintro ⟨⟩
        exact hown.ne_unsupported rfl
      · intro _
        constructor
        · rintro v ⟨⟩
        · rintro e ⟨⟩
          exact .inl hown
  | trap htakes hpairing =>
      constructor
      · apply iff_of_false _ (not_not.mpr htakes)
        rintro ⟨⟩
      · intro _
        constructor
        · rintro v ⟨⟩
        · rintro e ⟨⟩
          exact .inr ⟨rfl, hpairing⟩
  | unsupported htakes =>
      constructor
      · exact iff_of_true rfl htakes
      · intro h
        exact absurd h htakes

/-- An exponent that is not even read, an integer raised to a negative decimal, and a shift
that is refused for its count. -/
theorem apply_told_by_kinds_of_exponents :
    (Value.string "2").apply .pow (.decimal ⟨5, 1⟩) =
        .error (.unsupported .pow .string .decimal) ∧
      (exists v, (Value.integer 2).apply .pow (.decimal ⟨-3, 0⟩) = .ok v ∧ v.kind = .decimal) ∧
      exists e, (Value.integer 2).apply .shiftLeft (.integer (-3)) = .error e ∧
        OwnFailure .shiftLeft .integers e := by
  refine ⟨?_, ?_, ?_⟩
  · exact (apply_told_by_kinds .pow _ _).left.mpr (by decide)
  · have hresult : (Value.integer 2).apply .pow (.decimal ⟨-3, 0⟩) =
        .ok (.decimal ⟨125 * 10 ^ 97, 100⟩) := by decide +kernel
    have hexponent : (Value.decimal ⟨-3, 0⟩).number? = some ((-3 : Int) : ℚ) := by
      norm_num [number?, Decimal.toRat]
    refine ⟨_, hresult, ?_⟩
    rw [((apply_told_by_kinds .pow _ _).right (by decide)).left _ hresult,
      resultKind_pow_integer hexponent]
    decide
  · rcases (apply_told_by_kinds .shiftLeft (.integer 2) (.integer (-3))).right (by decide)
      with ⟨-, hfails⟩
    refine ⟨_, rfl, (hfails _ rfl).resolve_right ?_⟩
    rintro ⟨⟨⟩, -⟩

end Operators

end Value
end Reckon
