import Reckon.Text.Runs
import Reckon.Unicode.GraphemeBreak

/-!
# Grapheme clusters

A text is cut into extended grapheme clusters, each of which is one character to
a reader. A text is read from left to right, and what has been read decides
whether the next character joins the cluster before it. The clusters of a text
make up the text.
-/

namespace Reckon
namespace Text

open Unicode (GraphemeBreak graphemeBreak isConjunctLinker isConjunctExtend)

/-- What the text before a place says about a boundary there. -/
structure LeftContext where
  /-- The class of the last character. -/
  last : GraphemeBreak
  /-- Whether an odd number of regional indicators ends the text. -/
  oddIndicators : Bool
  /-- Whether a pictograph ends the text, not counting extenders behind it. -/
  pictograph : Bool
  /-- Whether a joiner stands behind such a pictograph. -/
  joinedPictograph : Bool
  /-- Whether a consonant ends the text, not counting what may stand between the
  consonants of a conjunct. -/
  consonant : Bool
  /-- Whether a linker stands behind such a consonant. -/
  linkedConsonant : Bool
  deriving DecidableEq, Repr

/-- The start of a text, where nothing joins. -/
def LeftContext.start : LeftContext :=
  ⟨.control, false, false, false, false, false⟩

def LeftContext.push (left : LeftContext) (c : Char) : LeftContext :=
  let next := graphemeBreak c
  let isLinker := isConjunctLinker c
  let isFiller := isConjunctExtend c
  { last := next
    oddIndicators := next == .regionalIndicator && !left.oddIndicators
    pictograph := next == .pictograph || (next == .extend && left.pictograph)
    joinedPictograph := next == .joiner && left.pictograph
    consonant := next == .consonant || ((isLinker || isFiller) && left.consonant)
    linkedConsonant :=
      (isLinker && left.consonant) || (isFiller && left.linkedConsonant) }

/-- Whether a class stands alone, whatever is beside it. -/
def standsAlone (k : GraphemeBreak) : Bool :=
  k == .carriageReturn || k == .lineFeed || k == .control

/-- Whether the second class continues a syllable that the first one ends. -/
def continuesSyllable : GraphemeBreak -> GraphemeBreak -> Bool
  | .leading, next =>
      next == .leading || next == .vowel || next == .openSyllable || next == .closedSyllable
  | .vowel, next => next == .vowel || next == .trailing
  | .openSyllable, next => next == .vowel || next == .trailing
  | .trailing, next => next == .trailing
  | .closedSyllable, next => next == .trailing
  | _, _ => false

/-- Whether a character belongs to the cluster before it. -/
def LeftContext.joins (left : LeftContext) (c : Char) : Bool :=
  let next := graphemeBreak c
  if left.last == .carriageReturn && next == .lineFeed then true
  else if standsAlone left.last || standsAlone next then false
  else
    next == .extend || next == .joiner || next == .spacingMark
      || left.last == .prepend
      || continuesSyllable left.last next
      || (next == .consonant && left.linkedConsonant)
      || (next == .pictograph && left.joinedPictograph)
      || (next == .regionalIndicator && left.oddIndicators)

structure Cutting where
  left : LeftContext
  /-- The clusters so far, the last one first, each with its last character
  first. -/
  clusters : List (List Char)

def Cutting.push (cutting : Cutting) (c : Char) : Cutting :=
  let clusters :=
    match cutting.clusters with
    | [] => [[c]]
    | cluster :: done =>
        if cutting.left.joins c then (c :: cluster) :: done else [c] :: cluster :: done
  ⟨cutting.left.push c, clusters⟩

def graphemes (cs : List Char) : List (List Char) :=
  ((cs.foldl Cutting.push ⟨.start, []⟩).clusters.map List.reverse).reverse

theorem flatten_clusters_push (cutting : Cutting) (c : Char) :
    (cutting.push c).clusters.flatten = c :: cutting.clusters.flatten := by
  unfold Cutting.push
  cases h : cutting.clusters with
  | nil => rfl
  | cons cluster done =>
      simp only
      split <;> simp

theorem flatten_clusters_foldl (cutting : Cutting) (cs : List Char) :
    (cs.foldl Cutting.push cutting).clusters.flatten =
      cs.reverse ++ cutting.clusters.flatten := by
  induction cs generalizing cutting with
  | nil => rfl
  | cons c cs ih => simp [ih, flatten_clusters_push]

/-- Cutting a text loses nothing. -/
theorem flatten_graphemes (cs : List Char) : (graphemes cs).flatten = cs := by
  rw [graphemes, ← List.reverse_flatten, flatten_clusters_foldl]
  simp

end Text
end Reckon
