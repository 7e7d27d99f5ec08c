/-!
# Durations

A duration is a signed number of nanoseconds that fits in 64 bits. Sums and
differences outside that range do not exist.
-/

namespace Reckon

/-- Whether a number of nanoseconds is a signed 64-bit integer. -/
def IsDuration (nanoseconds : Int) : Prop :=
  -9223372036854775808 ≤ nanoseconds ∧ nanoseconds ≤ 9223372036854775807

instance (nanoseconds : Int) : Decidable (IsDuration nanoseconds) :=
  inferInstanceAs (Decidable (_ ∧ _))

structure Duration where
  nanoseconds : Int
  inRange : IsDuration nanoseconds
  deriving DecidableEq, Repr

namespace Duration

def zero : Duration := ⟨0, by decide⟩

/-- The duration of that many nanoseconds, if it is in range. -/
def ofNanoseconds? (n : Int) : Option Duration :=
  if h : IsDuration n then some ⟨n, h⟩ else none

def add? (a b : Duration) : Option Duration :=
  ofNanoseconds? (a.nanoseconds + b.nanoseconds)

/-- The difference of two durations, if it is in range. -/
def sub? (a b : Duration) : Option Duration :=
  ofNanoseconds? (a.nanoseconds - b.nanoseconds)

theorem ofNanoseconds?_nanoseconds (d : Duration) :
    ofNanoseconds? d.nanoseconds = some d := by
  simp [ofNanoseconds?, d.inRange]

theorem ofNanoseconds?_eq_some_iff {n : Int} {d : Duration} :
    ofNanoseconds? n = some d <-> d.nanoseconds = n := by
  constructor
  · intro h
    simp only [ofNanoseconds?] at h
    split at h
    · cases h
      rfl
    · exact absurd h (by simp)
  · intro h
    rw [← h, ofNanoseconds?_nanoseconds]

/-!
## Units
-/

inductive TimeUnit where
  | nanosecond
  | microsecond
  | millisecond
  | second
  | minute
  | hour
  deriving DecidableEq, Repr

namespace TimeUnit

def nanoseconds : TimeUnit -> Nat
  | .nanosecond => 1
  | .microsecond => 1000
  | .millisecond => 1000000
  | .second => 1000000000
  | .minute => 60000000000
  | .hour => 3600000000000

/-- The unit that an abbreviation stands for. The micro sign and the letter mu
are both understood. -/
def ofChars? (cs : List Char) : Option TimeUnit :=
  match cs with
  | ['n', 's'] => some .nanosecond
  | ['u', 's'] => some .microsecond
  | ['\u00b5', 's'] => some .microsecond
  | ['\u03bc', 's'] => some .microsecond
  | ['m', 's'] => some .millisecond
  | ['s'] => some .second
  | ['m'] => some .minute
  | ['h'] => some .hour
  | _ => none

end TimeUnit
end Duration
end Reckon
