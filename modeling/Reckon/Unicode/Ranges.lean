/-!
# Sets of code points

A Unicode property is given by a table of closed ranges of code points, as of
Unicode 17.0. The properties that the calculator consults each have a module of
their own.
-/

namespace Reckon
namespace Unicode

/-- Whether a code point lies in one of the closed ranges of a table. -/
def inRanges (ranges : List (Nat × Nat)) (code : Nat) : Bool :=
  ranges.any fun range => range.1 ≤ code && code ≤ range.2

theorem inRanges_eq_true_iff {ranges : List (Nat × Nat)} {code : Nat} :
    inRanges ranges code = true <->
      exists range, range ∈ ranges ∧ range.1 ≤ code ∧ code ≤ range.2 := by
  simp [inRanges]

end Unicode
end Reckon
