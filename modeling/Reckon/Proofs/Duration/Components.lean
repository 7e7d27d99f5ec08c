import Reckon.Proofs.Duration.Scanning

/-!
# Rows of components

A component with a known unit counts some nanoseconds. A row of such components is
a row of amounts, so that it reads back as what it was made of and its counts add
up; and a scanner takes the whole row for one number.
-/

namespace Reckon
namespace Duration

open Numeral

/-!
## Units as they are written
-/

/-- The abbreviation that a unit is written with. -/
def TimeUnit.chars : TimeUnit -> List Char
  | .nanosecond => ['n', 's']
  | .microsecond => ['\u00b5', 's']
  | .millisecond => ['m', 's']
  | .second => ['s']
  | .minute => ['m']
  | .hour => ['h']

theorem TimeUnit.ofChars?_chars (unit : TimeUnit) : ofChars? unit.chars = some unit := by
  cases unit <;> rfl

/-!
## Components and their counts
-/

def Component.chars (part : Component) : List Char :=
  part.whole ++ (pointChars part.fraction ++ part.unit)

/-- A component with a known unit counts a number of nanoseconds. -/
structure Component.Counts (part : Component) (unit : TimeUnit) (n : Nat) : Prop where
  whole_ne_nil : part.whole ≠ []
  isDigit_whole : forall c, c ∈ part.whole -> c.isDigit = true
  isDigit_fraction : forall c, c ∈ part.fraction -> c.isDigit = true
  unit_eq : part.unit = unit.chars
  count_eq : Nat.ofDigitChars 10 part.whole 0 * unit.nanoseconds +
    fractionNanoseconds part.fraction unit = n

/-- Components and the nanoseconds that they count together. -/
inductive Spelled : List Component -> Nat -> Prop where
  | nil : Spelled [] 0
  | cons {part : Component} {parts : List Component} {unit : TimeUnit} {n m : Nat} :
      part.Counts unit n -> Spelled parts m -> Spelled (part :: parts) (n + m)

/-!
## Reading components back

What is known of reading amounts is carried over to components.
-/

/-- The component as an amount. There is no point if no digits would stand behind it. -/
def Component.Counts.amount {part : Component} {unit : TimeUnit} {n : Nat}
    (h : part.Counts unit n) : Amount where
  whole := part.whole
  fraction? := if part.fraction = [] then none else some part.fraction
  unit := unit
  name := part.unit
  isDigit_whole := h.isDigit_whole
  isDigit_fraction := by
    split
    · exact fun _ hmem => nomatch hmem
    · exact h.isDigit_fraction
  exists_digit := Or.inl h.whole_ne_nil
  name_eq := by rw [h.unit_eq, TimeUnit.ofChars?_chars]

theorem getD_fraction? (fraction : List Char) :
    (if fraction = [] then none else some fraction).getD [] = fraction := by
  split
  · next hnil => exact hnil.symm
  · rfl

section Amount

variable {part : Component} {unit : TimeUnit} {n : Nat} (h : part.Counts unit n)

theorem Component.Counts.component_amount : h.amount.component = part := by
  rw [Amount.component, amount, getD_fraction?]

theorem Component.Counts.chars_amount : h.amount.chars = part.chars := by
  have hplaces : placesChars h.amount.fraction? = pointChars part.fraction := by
    unfold pointChars amount
    split <;> rfl
  rw [Amount.chars, hplaces]
  rfl

theorem Component.Counts.fraction?_amount_ne : h.amount.fraction? ≠ some [] := by
  unfold amount
  dsimp only
  split
  · exact fun hnone => nomatch hnone
  · next hne => exact fun hsome => hne (Option.some.inj hsome)

theorem Component.Counts.nanoseconds_amount : h.amount.nanoseconds = n := by
  have hfraction : h.amount.fraction?.getD [] = part.fraction := getD_fraction? part.fraction
  rw [Amount.nanoseconds, hfraction]
  exact h.count_eq

end Amount

theorem Spelled.exists_amounts {parts : List Component} {n : Nat} (h : Spelled parts n) :
    exists amounts : List Amount, amounts.map Amount.component = parts ∧
      amounts.flatMap Amount.chars = parts.flatMap Component.chars ∧
      totalNanoseconds amounts = n ∧
      forall a, a ∈ amounts -> a.fraction? ≠ some [] ∧ a.whole ≠ [] := by
  induction h with
  | nil => exact ⟨[], rfl, rfl, rfl, List.forall_mem_nil _⟩
  | @cons part parts unit n m hpart _ ih =>
      rcases ih with ⟨amounts, hparts, hchars, htotal, hdigits⟩
      refine ⟨hpart.amount :: amounts, ?_, ?_, ?_, ?_⟩
      · rw [List.map_cons, hparts, hpart.component_amount]
      · rw [List.flatMap_cons, List.flatMap_cons, hchars, hpart.chars_amount]
      · rw [totalNanoseconds_cons, htotal, hpart.nanoseconds_amount]
      · exact List.forall_mem_cons.mpr
          ⟨⟨hpart.fraction?_amount_ne, hpart.whole_ne_nil⟩, hdigits⟩

theorem Spelled.foldlM_addTo {parts : List Component} {n : Nat} (h : Spelled parts n)
    (hle : n ≤ maxMagnitude) : parts.foldlM Component.addTo 0 = .ok n := by
  rcases h.exists_amounts with ⟨amounts, hparts, -, rfl, -⟩
  have htotal : 0 + totalNanoseconds amounts ≤ maxMagnitude := by
    rw [Nat.zero_add]
    exact hle
  rw [← hparts, foldlM_addTo_components (not_carriesFrom_of_le htotal) (Nat.zero_le _),
    if_pos htotal, Nat.zero_add]

theorem Spelled.isNumber {parts : List Component} {n : Nat} (h : Spelled parts n)
    (hne : parts ≠ []) : Scan.IsNumber .duration (parts.flatMap Component.chars) := by
  rcases h.exists_amounts with ⟨amounts, hparts, hchars, -, hdigits⟩
  cases amounts with
  | nil => exact absurd hparts.symm hne
  | cons a amounts =>
      have hjoined : Joined a amounts :=
        ⟨(hdigits a List.mem_cons_self).left, fun b hb => (hdigits b hb).right⟩
      rw [← hchars]
      exact hjoined.isNumber

end Duration
end Reckon
