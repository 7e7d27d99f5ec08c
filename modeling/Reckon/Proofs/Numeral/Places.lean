import Reckon.Numeral.Integer
import Reckon.Text.Runs

/-!
# Digits in their places

Reading the last digits of a number gives the number back as far as they reach, and
the number of its digits is told by the powers of ten around it. A row of digits may
begin and end with zeros; each zero at the end makes its number ten times as large.
Other numerals have a sign in front and digits behind a point.
-/

namespace Reckon
namespace Numeral

/-!
## Characters that are digits
-/

theorem exists_digitChar {c : Char} (h : c.isDigit = true) :
    exists k, k < 10 ∧ c = Nat.digitChar k := by
  rcases Char.isDigit_iff_toNat.mp h with ⟨hlow, hhigh⟩
  have hzero : '0'.toNat = 48 := rfl
  have hnine : '9'.toNat = 57 := rfl
  have hlt : c.toNat - 48 < 10 := by omega
  refine ⟨c.toNat - 48, hlt, ?_⟩
  apply Char.toNat_inj.mp
  rw [Nat.toNat_digitChar_of_lt_ten hlt]
  omega

theorem eq_of_isDigit {α : Type} {f : Char -> α} {a : α}
    (h : forall k, k < 10 -> f (Nat.digitChar k) = a) {c : Char} (hc : c.isDigit = true) :
    f c = a := by
  rcases exists_digitChar hc with ⟨k, hk, rfl⟩
  exact h k hk

theorem ofDigitChars_lt {cs : List Char} (h : forall c, c ∈ cs -> c.isDigit = true) :
    Nat.ofDigitChars 10 cs 0 < tenPow cs.length := by
  induction cs with
  | nil => exact Nat.zero_lt_one
  | cons c cs ih =>
      rcases exists_digitChar (h c List.mem_cons_self) with ⟨k, hk, rfl⟩
      have hrest := ih fun d hd => h d (List.mem_cons_of_mem _ hd)
      have hle : tenPow cs.length * (k + 1) ≤ tenPow cs.length * 10 :=
        Nat.mul_le_mul_left _ hk
      have hvalue : Nat.ofDigitChars 10 (Nat.digitChar k :: cs) 0 =
          tenPow cs.length * k + Nat.ofDigitChars 10 cs 0 := by
        rw [Nat.ofDigitChars_cons_digitChar_of_lt_ten hk,
          Nat.ofDigitChars_eq_ofDigitChars_zero, Nat.mul_zero, Nat.zero_add]
        rfl
      rw [hvalue, List.length_cons, tenPow_succ]
      rw [Nat.mul_succ] at hle
      omega

/-!
## The last digits of a number
-/

theorem isDigit_of_mem_lastDigits {width n : Nat} {c : Char} (h : c ∈ lastDigits width n) :
    c.isDigit = true := by
  induction width generalizing n with
  | zero => cases h
  | succ width ih =>
      rw [lastDigits, List.mem_append, List.mem_singleton] at h
      rcases h with hhigh | rfl
      · exact ih hhigh
      · rw [Nat.isDigit_digitChar, decide_eq_true_eq]
        exact Nat.mod_lt n (by decide)

theorem ofDigitChars_lastDigits (width n : Nat) :
    Nat.ofDigitChars 10 (lastDigits width n) 0 = n % tenPow width := by
  induction width generalizing n with
  | zero => exact (Nat.mod_one n).symm
  | succ width ih =>
      have hlast : n % 10 < 10 := Nat.mod_lt n (by decide)
      rw [lastDigits, Nat.ofDigitChars_append, ih,
        Nat.ofDigitChars_cons_digitChar_of_lt_ten hlast, Nat.ofDigitChars_nil,
        tenPow_succ', Nat.mod_mul, Nat.add_comm]

theorem isDigit_of_mem_padded {width n : Nat} {c : Char} (h : c ∈ padded width n) :
    c.isDigit = true := by
  rw [padded_eq] at h
  exact isDigit_of_mem_lastDigits h

theorem padded_length (width n : Nat) : (padded width n).length = width := by
  rw [padded_eq, lastDigits_length]

theorem ofDigitChars_padded {width n : Nat} (h : n < tenPow width) :
    Nat.ofDigitChars 10 (padded width n) 0 = n := by
  rw [padded_eq, ofDigitChars_lastDigits, Nat.mod_eq_of_lt h]

/-!
## How many digits
-/

theorem lt_tenPow_digitCount (n : Nat) : n < tenPow (digitCount n) := by
  induction n using Nat.strongRecOn with
  | ind n ih =>
      by_cases h : n < 10
      · rw [digitCount_of_lt h]
        exact h
      · have hle : 10 ≤ n := Nat.not_lt.mp h
        have hrest := ih (n / 10) (by omega)
        rw [digitCount_of_le hle, tenPow_succ]
        exact (Nat.div_lt_iff_lt_mul (by decide)).mp hrest

theorem tenPow_digitCount_le {n : Nat} (h : n ≠ 0) : tenPow (digitCount n - 1) ≤ n := by
  induction n using Nat.strongRecOn with
  | ind n ih =>
      by_cases hlt : n < 10
      · rw [digitCount_of_lt hlt]
        exact Nat.pos_of_ne_zero h
      · have hle : 10 ≤ n := Nat.not_lt.mp hlt
        have hrest := ih (n / 10) (by omega) (by omega)
        have hpos := digitCount_pos (n / 10)
        have hcount : digitCount (n / 10) + 1 - 1 = digitCount (n / 10) - 1 + 1 := by omega
        rw [digitCount_of_le hle, hcount, tenPow_succ]
        exact (Nat.le_div_iff_mul_le (by decide)).mp hrest

theorem digitCount_eq_of_le_of_lt {n k : Nat} (hle : tenPow k ≤ n) (hlt : n < tenPow (k + 1)) :
    digitCount n = k + 1 := by
  have hne : n ≠ 0 := Nat.ne_of_gt (Nat.lt_of_lt_of_le (tenPow_pos k) hle)
  have hlow : ¬ digitCount n ≤ k := by
    intro h
    have := tenPow_le h
    have := lt_tenPow_digitCount n
    omega
  have hhigh : ¬ k + 1 ≤ digitCount n - 1 := by
    intro h
    have := tenPow_le h
    have := tenPow_digitCount_le hne
    omega
  omega

theorem digitCount_le_of_lt {n k : Nat} (hk : 0 < k) (h : n < tenPow k) : digitCount n ≤ k := by
  by_cases hzero : n = 0
  · rw [hzero, digitCount_of_lt (by decide)]
    exact hk
  · apply Nat.le_of_not_lt
    intro hlt
    have hle := tenPow_le (Nat.le_sub_one_of_lt hlt)
    exact absurd (Nat.lt_of_le_of_lt (tenPow_digitCount_le hzero) h) (Nat.not_lt.mpr hle)

/-!
## Zeros at either end
-/

theorem ofDigitChars_append_zeros (cs : List Char) (count : Nat) :
    Nat.ofDigitChars 10 (cs ++ List.replicate count '0') 0 =
      Nat.ofDigitChars 10 cs 0 * tenPow count := by
  rw [Nat.ofDigitChars_append, Nat.ofDigitChars_replicate_zero, Nat.mul_comm]
  rfl

theorem ofDigitChars_zeros_append (cs : List Char) (count : Nat) :
    Nat.ofDigitChars 10 (List.replicate count '0' ++ cs) 0 = Nat.ofDigitChars 10 cs 0 := by
  rw [Nat.ofDigitChars_append, Nat.ofDigitChars_replicate_zero, Nat.mul_zero]

/-- A row of digits without the zeros at its end. -/
def trimZeros (cs : List Char) : List Char :=
  (cs.reverse.dropWhile (· == '0')).reverse

theorem trimZeros_append (cs : List Char) :
    trimZeros cs ++ List.replicate (cs.reverse.takeWhile (· == '0')).length '0' = cs := by
  have hzeros : forall c, c ∈ (cs.reverse.takeWhile (· == '0')).reverse -> c = '0' := by
    intro c hc
    have hall := List.all_takeWhile (p := (· == '0')) (l := cs.reverse)
    exact beq_iff_eq.mp (List.all_eq_true.mp hall c (List.mem_reverse.mp hc))
  rw [← List.length_reverse, ← List.eq_replicate_of_mem hzeros, trimZeros,
    ← List.reverse_append, List.takeWhile_append_dropWhile, List.reverse_reverse]

theorem exists_trimZeros_append (cs : List Char) :
    exists count, trimZeros cs ++ List.replicate count '0' = cs :=
  ⟨_, trimZeros_append cs⟩

/-!
## Parts of a number
-/

/-- The sign in front of a number, which is written for negative numbers only. -/
def signChars (negative : Bool) : List Char :=
  if negative then ['-'] else []

theorem eq_of_mem_signChars {negative : Bool} {c : Char} (h : c ∈ signChars negative) :
    c = '-' := by
  cases negative with
  | true => exact List.mem_singleton.mp h
  | false => cases h

/-- The number that a sign and a magnitude make. -/
def signed (negative : Bool) (n : Nat) : Int :=
  if negative then -(n : Int) else n

theorem signed_natAbs (z : Int) : signed (z < 0) z.natAbs = z := by
  unfold signed
  split
  · next hneg =>
      have := of_decide_eq_true hneg
      omega
  · next hneg =>
      have := of_decide_eq_false (Bool.eq_false_iff.mpr hneg)
      omega

theorem natAbs_signed (negative : Bool) (n : Nat) : (signed negative n).natAbs = n := by
  cases negative with
  | false => exact Int.natAbs_natCast n
  | true => exact (Int.natAbs_neg n).trans (Int.natAbs_natCast n)

theorem signed_mul (negative : Bool) (m n : Nat) :
    signed negative (m * n) = signed negative m * n := by
  cases negative with
  | false => exact Int.natCast_mul m n
  | true => exact (congrArg Neg.neg (Int.natCast_mul m n)).trans (Int.neg_mul m n).symm

theorem signed_neg_iff {negative : Bool} {n : Nat} (h : 0 < n) :
    signed negative n < 0 <-> negative = true := by
  cases negative with
  | false => exact iff_of_false (Int.not_lt.mpr (Int.natCast_nonneg n)) Bool.false_ne_true
  | true => exact iff_of_true (Int.neg_neg_of_pos (Int.natCast_pos.mpr h)) rfl

theorem integerOfChars_signChars_append (negative : Bool) {cs : List Char} (hne : cs ≠ [])
    (h : forall c, c ∈ cs -> c.isDigit = true) :
    integerOfChars (signChars negative ++ cs) =
      .ok (signed negative (Nat.ofDigitChars 10 cs 0)) := by
  have hread := naturalOfChars_of_digits hne h
  cases negative with
  | true =>
      show (naturalOfChars cs).map _ = _
      rw [hread]
      rfl
  | false =>
      show integerOfChars cs = _
      unfold integerOfChars
      split
      · cases h '-' List.mem_cons_self
      · cases h '+' List.mem_cons_self
      · rw [hread]
        rfl

/-- A point and the digits behind it, or nothing if there are none. -/
def pointChars (fraction : List Char) : List Char :=
  if fraction = [] then [] else '.' :: fraction

/-- Whether a character can be part of a number with a fraction. -/
def isPlaceChar (c : Char) : Bool :=
  c.isDigit || c == '.'

theorem stopsRun_isDigit {cs : List Char} (h : Text.StopsRun isPlaceChar cs) :
    Text.StopsRun Char.isDigit cs :=
  fun c hc => (Bool.or_eq_false_iff.mp (h c hc)).left

theorem stopsRun_pointChars (fraction : List Char) {rest : List Char}
    (hrest : Text.StopsRun isPlaceChar rest) :
    Text.StopsRun Char.isDigit (pointChars fraction ++ rest) := by
  unfold pointChars
  split
  · exact stopsRun_isDigit hrest
  · exact Text.stopsRun_cons (by decide)

end Numeral
end Reckon
