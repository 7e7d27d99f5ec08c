/-!
# Decimal digits of natural numbers

The number of digits of a natural number, and the numeral that spells it. Both
are computed by splitting a number at a power of ten near its middle, so that
numbers of many thousand digits stay cheap. The main statements say that this
is only a matter of speed: `digitCount_eq` gives the plain recursion for the
count, and `digits_eq_toDigits` says that the numeral is the usual one.
-/

namespace Reckon
namespace Numeral

/-!
## Powers of ten
-/

/-- The power of ten with that many zeros. -/
def tenPow (n : Nat) : Nat :=
  Nat.pow 10 n

@[simp]
theorem tenPow_zero : tenPow 0 = 1 := rfl

theorem tenPow_succ (n : Nat) : tenPow (n + 1) = tenPow n * 10 := rfl

theorem tenPow_succ' (n : Nat) : tenPow (n + 1) = 10 * tenPow n :=
  Nat.mul_comm (tenPow n) 10

theorem tenPow_add (m n : Nat) : tenPow (m + n) = tenPow m * tenPow n :=
  Nat.pow_add 10 m n

theorem tenPow_pos (n : Nat) : 0 < tenPow n :=
  Nat.pow_pos (by decide)

theorem tenPow_le {m n : Nat} (h : m ≤ n) : tenPow m ≤ tenPow n :=
  Nat.pow_le_pow_right (by decide) h

/-!
## Counting digits

A number has at least `⌊59 / 196 * log2 n⌋` digits after the first, because
`59 / 196` is just below the decimal logarithm of two. Dividing by that power
of ten leaves only a few digits to count one by one.
-/

/-- The number of decimal digits, found by dividing by ten. Zero has one. -/
def slowDigitCount (n : Nat) : Nat :=
  if n < 10 then 1 else slowDigitCount (n / 10) + 1
termination_by n
decreasing_by omega

/-- A lower bound on the number of digits after the first. -/
def digitEstimate (n : Nat) : Nat :=
  n.log2 * 59 / 196

/-- The number of decimal digits. Zero has one. -/
def digitCount (n : Nat) : Nat :=
  slowDigitCount (n / tenPow (digitEstimate n)) + digitEstimate n

theorem slowDigitCount_of_lt {n : Nat} (h : n < 10) : slowDigitCount n = 1 := by
  rw [slowDigitCount]
  simp [h]

theorem slowDigitCount_of_le {n : Nat} (h : 10 ≤ n) :
    slowDigitCount n = slowDigitCount (n / 10) + 1 := by
  rw [slowDigitCount]
  simp [Nat.not_lt.mpr h]

theorem slowDigitCount_div_pow {n : Nat} :
    forall k, tenPow k ≤ n ->
      slowDigitCount (n / tenPow k) + k = slowDigitCount n
  | 0, _ => by simp
  | k + 1, h => by
      have hsplit : n / tenPow (k + 1) = n / tenPow k / 10 := by
        rw [tenPow_succ, Nat.div_div_eq_div_mul]
      have hten : 10 ≤ n / tenPow k := by
        rw [Nat.le_div_iff_mul_le (tenPow_pos k), ← tenPow_succ']
        exact h
      have hle : tenPow k ≤ n :=
        Nat.le_trans (tenPow_le (Nat.le_succ k)) h
      have hrec := slowDigitCount_div_pow k hle
      rw [slowDigitCount_of_le hten] at hrec
      rw [hsplit]
      omega

theorem tenPow_le_two_pow (b : Nat) : tenPow (b * 59 / 196) ≤ Nat.pow 2 b := by
  have hpow : (10 ^ 59) ^ b ≤ (2 ^ 196) ^ b :=
    Nat.pow_le_pow_left (by decide) b
  rw [← Nat.pow_mul, ← Nat.pow_mul] at hpow
  have hdiv : 196 * (b * 59 / 196) ≤ 59 * b := by
    have := Nat.mul_div_le (b * 59) 196
    omega
  have hle : 10 ^ (196 * (b * 59 / 196)) ≤ 2 ^ (196 * b) :=
    Nat.le_trans (Nat.pow_le_pow_right (by decide) hdiv) hpow
  rw [Nat.mul_comm, Nat.pow_mul, Nat.mul_comm 196 b, Nat.pow_mul] at hle
  exact (Nat.pow_le_pow_iff_left (by decide)).mp hle

theorem tenPow_digitEstimate_le {n : Nat} (h : n ≠ 0) :
    tenPow (digitEstimate n) ≤ n :=
  Nat.le_trans (tenPow_le_two_pow n.log2) (Nat.log2_self_le h)

theorem digitCount_eq (n : Nat) : digitCount n = slowDigitCount n := by
  by_cases h : n = 0
  · subst h
    simp [digitCount, digitEstimate]
  · exact slowDigitCount_div_pow _ (tenPow_digitEstimate_le h)

theorem digitCount_of_lt {n : Nat} (h : n < 10) : digitCount n = 1 := by
  rw [digitCount_eq, slowDigitCount_of_lt h]

theorem digitCount_of_le {n : Nat} (h : 10 ≤ n) :
    digitCount n = digitCount (n / 10) + 1 := by
  rw [digitCount_eq, digitCount_eq, slowDigitCount_of_le h]

theorem digitCount_pos (n : Nat) : 0 < digitCount n := by
  by_cases h : n < 10
  · simp [digitCount_of_lt h]
  · simp [digitCount_of_le (Nat.not_lt.mp h)]

/-!
## Spelling numbers

`lastDigits w n` spells the last `w` digits of `n`, zeros included, and
`padded w n` is the same text found faster. The numeral of `n` has
`digitCount n` digits, and so no zero in front unless `n` is zero.
-/

/-- The last `width` decimal digits of `n`, one by one. -/
def lastDigits : Nat -> Nat -> List Char
  | 0, _ => []
  | width + 1, n => lastDigits width (n / 10) ++ [Nat.digitChar (n % 10)]

/-- The last `width` decimal digits of `n`, split near the middle. -/
def padded (width n : Nat) : List Char :=
  match width with
  | 0 => []
  | 1 => [Nat.digitChar (n % 10)]
  | rest + 2 =>
      let low := (rest + 2) / 2
      padded (rest + 2 - low) (n / tenPow low) ++ padded low (n % tenPow low)
termination_by width
decreasing_by all_goals omega

def digits (n : Nat) : List Char :=
  padded (digitCount n) n

theorem lastDigits_length (width n : Nat) :
    (lastDigits width n).length = width := by
  induction width generalizing n with
  | zero => rfl
  | succ width ih => simp [lastDigits, ih]

theorem lastDigits_add (high low n : Nat) :
    lastDigits (high + low) n =
      lastDigits high (n / tenPow low) ++ lastDigits low n := by
  induction low generalizing n with
  | zero => simp [lastDigits]
  | succ low ih =>
      rw [← Nat.add_assoc, lastDigits, lastDigits, ih, Nat.div_div_eq_div_mul,
        ← tenPow_succ', List.append_assoc]

theorem lastDigits_mod (width n : Nat) :
    lastDigits width (n % tenPow width) = lastDigits width n := by
  induction width generalizing n with
  | zero => rfl
  | succ width ih =>
      have hhigh : n % tenPow (width + 1) / 10 = n / 10 % tenPow width := by
        rw [tenPow_succ', Nat.mod_mul_right_div_self]
      have hlow : n % tenPow (width + 1) % 10 = n % 10 :=
        Nat.mod_mod_of_dvd _ (tenPow_succ' width ▸ Nat.dvd_mul_right _ _)
      rw [lastDigits, lastDigits, hhigh, hlow, ih]

theorem padded_eq (width n : Nat) : padded width n = lastDigits width n := by
  induction width using Nat.strongRecOn generalizing n with
  | ind width ih =>
      match width with
      | 0 => simp [padded, lastDigits]
      | 1 => simp [padded, lastDigits]
      | rest + 2 =>
          have hsplit : rest + 2 = (rest + 2 - (rest + 2) / 2) + (rest + 2) / 2 := by
            omega
          rw [padded, ih _ (by omega), ih _ (by omega), lastDigits_mod,
            ← lastDigits_add, ← hsplit]

theorem lastDigits_digitCount (n : Nat) :
    lastDigits (digitCount n) n = Nat.toDigits 10 n := by
  induction n using Nat.strongRecOn with
  | ind n ih =>
      by_cases h : n < 10
      · rw [digitCount_of_lt h, Nat.toDigits_of_lt_base h]
        simp [lastDigits, Nat.mod_eq_of_lt h]
      · have hle : 10 ≤ n := Nat.not_lt.mp h
        rw [digitCount_of_le hle, Nat.toDigits_of_base_le (by decide) hle,
          lastDigits, ih _ (by omega)]

/-- The numeral is the usual one in base ten. -/
theorem digits_eq_toDigits (n : Nat) : digits n = Nat.toDigits 10 n := by
  rw [digits, padded_eq, lastDigits_digitCount]

theorem digits_length (n : Nat) : (digits n).length = digitCount n := by
  rw [digits, padded_eq, lastDigits_length]

theorem ofDigitChars_digits (n : Nat) : Nat.ofDigitChars 10 (digits n) 0 = n := by
  rw [digits_eq_toDigits, Nat.ofDigitChars_toDigits (by decide) (by decide)]

end Numeral
end Reckon
