import Reckon.Duration.Basic
import Reckon.Numeral.Digits
import Reckon.Text.Runs

/-!
# Reading durations

A duration is written as components such as `1h30m0s` or `1.5ms`, each a number
with an optional fraction and a unit, with an optional sign in front of them
all. A lone zero needs no unit.

A text is first split into components, which always succeeds; each component
is then judged and added to the total. Only the first eighteen digits of a
fraction count.
-/

namespace Reckon
namespace Duration

open Text

inductive Fault where
  /-- There are no digits where a component should begin. -/
  | invalid
  /-- A number has no unit. -/
  | missingUnit
  /-- The unit of a number is not known. -/
  | unknownUnit (unit : List Char)
  /-- The duration does not fit its range. -/
  | overflow
  /-- A fraction carries the total past its range. This is not reported: whatever
  reads the duration breaks off. -/
  | trap
  deriving DecidableEq, Repr

def Fault.message : Fault -> String
  | .invalid => "invalid duration"
  | .missingUnit => "missing unit in duration"
  | .unknownUnit unit => s!"unknown unit `{String.ofList unit}` in duration"
  | .overflow => "duration out of range"
  | .trap => "arithmetic overflow"

/-!
## Splitting a text into components
-/

/-- The digits, fraction digits and unit of one part of a text. -/
structure Component where
  whole : List Char
  fraction : List Char
  unit : List Char
  deriving DecidableEq, Repr

/-- Whether a character can be part of a unit: it begins no number. -/
def isUnitChar (c : Char) : Bool :=
  !(c.isDigit || c == '.')

/-- The digits after a point, if a point comes first, and what follows them. -/
def splitFraction (cs : List Char) : List Char × List Char :=
  match cs with
  | '.' :: rest => (rest.takeWhile Char.isDigit, rest.dropWhile Char.isDigit)
  | _ => ([], cs)

/-- The first component of a text and what follows it. -/
def splitComponent (cs : List Char) : Component × List Char :=
  let fraction := splitFraction (cs.dropWhile Char.isDigit)
  ({ whole := cs.takeWhile Char.isDigit
     fraction := fraction.1
     unit := fraction.2.takeWhile isUnitChar },
    fraction.2.dropWhile isUnitChar)

theorem length_splitFraction_le (cs : List Char) :
    (splitFraction cs).2.length ≤ cs.length := by
  unfold splitFraction
  split
  · exact Nat.le_succ_of_le (length_dropWhile_le _ _)
  · exact Nat.le_refl _

theorem length_splitComponent_lt {cs : List Char} (h : cs ≠ []) :
    (splitComponent cs).2.length < cs.length := by
  cases cs with
  | nil => exact absurd rfl h
  | cons c rest =>
      have hunit (ds : List Char) :
          ((splitFraction ds).2.dropWhile isUnitChar).length ≤ ds.length :=
        Nat.le_trans (length_dropWhile_le _ _) (length_splitFraction_le ds)
      unfold splitComponent
      by_cases hdigit : c.isDigit = true
      · exact Nat.lt_of_le_of_lt (hunit _) (length_dropWhile_lt hdigit)
      · rw [List.dropWhile_cons_of_neg hdigit]
        by_cases hdot : c = '.'
        · subst hdot
          exact Nat.lt_succ_of_le
            (Nat.le_trans (length_dropWhile_le _ _) (length_dropWhile_le _ _))
        · have hchar : isUnitChar c = true := by simp [isUnitChar, hdigit, hdot]
          have hsplit : splitFraction (c :: rest) = ([], c :: rest) := by
            unfold splitFraction
            split
            · next heq => exact absurd (List.cons.inj heq).1 hdot
            · rfl
          rw [hsplit]
          exact length_dropWhile_lt hchar

def components (cs : List Char) : List Component :=
  if h : cs = [] then []
  else
    let first := splitComponent cs
    have : first.2.length < cs.length := length_splitComponent_lt h
    first.1 :: components first.2
termination_by cs.length

/-!
## Adding components up

The total is kept in 128 bits while it is checked. What does not fit is refused,
except that nobody asks whether what a fraction adds still fits: if it does not,
the addition traps.
-/

/-- The number of fraction digits that count. -/
def fractionPlaces : Nat := 18

/-- The nanoseconds that a fraction of a unit adds, rounded down. -/
def fractionNanoseconds (fraction : List Char) (unit : TimeUnit) : Nat :=
  let digits := fraction.take fractionPlaces
  Nat.ofDigitChars 10 digits 0 * unit.nanoseconds / Numeral.tenPow digits.length

/-- The number of totals that 128 bits tell apart. -/
def totalRange : Nat := 340282366920938463463374607431768211456

/-- The largest magnitude of a duration in nanoseconds. -/
def maxMagnitude : Nat := 9223372036854775808

def Component.addTo (total : Nat) (part : Component) : Except Fault Nat :=
  if part.whole.isEmpty && part.fraction.isEmpty then .error .invalid
  else if part.unit.isEmpty then .error .missingUnit
  else
    match TimeUnit.ofChars? part.unit with
    | none => .error (.unknownUnit part.unit)
    | some unit =>
        let whole := total + Nat.ofDigitChars 10 part.whole 0 * unit.nanoseconds
        if totalRange ≤ whole then .error .overflow
        else
          let sum := whole + fractionNanoseconds part.fraction unit
          if totalRange ≤ sum then .error .trap
          else if maxMagnitude < sum then .error .overflow
          else .ok sum

/-- The sign in front of a text, true for minus, and what follows it. -/
def splitSign (cs : List Char) : Bool × List Char :=
  match cs with
  | '-' :: rest => (true, rest)
  | '+' :: rest => (false, rest)
  | _ => (false, cs)

def ofChars (cs : List Char) : Except Fault Duration :=
  let (negative, body) := splitSign cs
  if body == ['0'] then .ok zero
  else if body.isEmpty then .error .invalid
  else
    match (components body).foldlM Component.addTo 0 with
    | .error fault => .error fault
    | .ok total =>
        match ofNanoseconds? (if negative then -(total : Int) else total) with
        | some d => .ok d
        | none => .error .overflow

end Duration
end Reckon
