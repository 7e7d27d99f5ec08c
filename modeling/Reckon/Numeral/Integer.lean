import Reckon.Numeral.Digits

/-!
# Integer numerals

Reading and writing integers in base ten. A numeral is an optional sign and at
least one digit; underscores may stand between and after the digits.
`integerOfChars_integerChars` says that every written integer reads back.
-/

namespace Reckon
namespace Numeral

inductive Fault where
  /-- There is no digit to read. -/
  | empty
  /-- Something other than a digit stands where a digit is needed. -/
  | invalidDigit
  deriving DecidableEq, Repr

def Fault.message : Fault -> String
  | .empty => "cannot parse integer from empty string"
  | .invalidDigit => "invalid digit found in string"

def naturalOfChars (cs : List Char) : Except Fault Nat :=
  match cs with
  | [] => .error .empty
  | c :: rest =>
      if c.isDigit && rest.all fun d => d.isDigit || d == '_' then
        .ok (Nat.ofDigitChars 10 (cs.filter Char.isDigit) 0)
      else
        .error .invalidDigit

def integerOfChars (cs : List Char) : Except Fault Int :=
  match cs with
  | '-' :: rest => (naturalOfChars rest).map fun (n : Nat) => -(n : Int)
  | '+' :: rest => (naturalOfChars rest).map fun (n : Nat) => (n : Int)
  | _ => (naturalOfChars cs).map fun (n : Nat) => (n : Int)

def integerChars (n : Int) : List Char :=
  if n < 0 then '-' :: digits n.natAbs else digits n.natAbs

theorem isDigit_of_mem_digits {n : Nat} {c : Char} (h : c ∈ digits n) :
    c.isDigit = true := by
  rw [digits_eq_toDigits] at h
  exact Nat.isDigit_of_mem_toDigits (by decide) (by decide) h

theorem digits_ne_nil (n : Nat) : digits n ≠ [] := by
  intro h
  have hlength := digits_length n
  have := digitCount_pos n
  simp [h] at hlength
  omega

theorem naturalOfChars_of_digits {cs : List Char} (hne : cs ≠ [])
    (h : forall c, c ∈ cs -> c.isDigit = true) :
    naturalOfChars cs = .ok (Nat.ofDigitChars 10 cs 0) := by
  cases cs with
  | nil => exact absurd rfl hne
  | cons c rest =>
      have hfilter : (c :: rest).filter Char.isDigit = c :: rest :=
        List.filter_eq_self.mpr h
      have hrest : (rest.all fun d => d.isDigit || d == '_') = true := by
        rw [List.all_eq_true]
        intro d hd
        simp [h d (List.mem_cons_of_mem c hd)]
      simp [naturalOfChars, h c List.mem_cons_self, hrest, hfilter]

theorem naturalOfChars_digits (n : Nat) :
    naturalOfChars (digits n) = .ok n := by
  rw [naturalOfChars_of_digits (digits_ne_nil n) fun _ => isDigit_of_mem_digits,
    ofDigitChars_digits]

/-- Every written integer reads back. -/
theorem integerOfChars_integerChars (n : Int) :
    integerOfChars (integerChars n) = .ok n := by
  by_cases hneg : n < 0
  · have habs : -(n.natAbs : Int) = n := by omega
    rw [integerChars, if_pos hneg]
    simp only [integerOfChars, naturalOfChars_digits, Except.map, habs]
  · have habs : (n.natAbs : Int) = n := by omega
    simp only [integerChars, hneg, if_false, integerOfChars]
    split
    · next rest hcs =>
        have := isDigit_of_mem_digits (n := n.natAbs) (c := '-') (by simp [hcs])
        exact absurd this (by decide)
    · next rest hcs =>
        have := isDigit_of_mem_digits (n := n.natAbs) (c := '+') (by simp [hcs])
        exact absurd this (by decide)
    · simp only [naturalOfChars_digits, Except.map, habs]

end Numeral
end Reckon
