/-!
# Runs of characters

Texts are lists of characters, and are read by splitting off the longest run of
characters of some class. What is left is never longer than the text, and is
shorter if the run is not empty.
-/

namespace Reckon
namespace Text

theorem length_dropWhile_le (p : Char -> Bool) (cs : List Char) :
    (cs.dropWhile p).length ≤ cs.length :=
  (List.dropWhile_suffix p).length_le

theorem length_dropWhile_lt {p : Char -> Bool} {c : Char} {cs : List Char}
    (h : p c = true) : ((c :: cs).dropWhile p).length < (c :: cs).length := by
  rw [List.dropWhile_cons_of_pos h]
  exact Nat.lt_succ_of_le (length_dropWhile_le p cs)

theorem length_takeWhile_add (p : Char -> Bool) (cs : List Char) :
    (cs.takeWhile p).length + (cs.dropWhile p).length = cs.length := by
  rw [← List.length_append, List.takeWhile_append_dropWhile]

/-- Whether no run of a class goes on into a text, which then is empty or starts
with a character of another class. -/
def StopsRun (p : Char -> Bool) (cs : List Char) : Prop :=
  forall c, cs.head? = some c -> p c = false

theorem stopsRun_nil (p : Char -> Bool) : StopsRun p [] := by
  intro c h
  cases h

theorem stopsRun_cons {p : Char -> Bool} {c : Char} {cs : List Char} (h : p c = false) :
    StopsRun p (c :: cs) := by
  intro d hd
  cases hd
  exact h

theorem takeWhile_append {p : Char -> Bool} {run rest : List Char}
    (hrun : forall c, c ∈ run -> p c = true) (hrest : StopsRun p rest) :
    (run ++ rest).takeWhile p = run := by
  rw [List.takeWhile_append_of_pos hrun]
  cases rest with
  | nil => rw [List.takeWhile_nil, List.append_nil]
  | cons c rest =>
      rw [List.takeWhile_cons_of_neg (Bool.eq_false_iff.mp (hrest c rfl)), List.append_nil]

theorem dropWhile_append {p : Char -> Bool} {run rest : List Char}
    (hrun : forall c, c ∈ run -> p c = true) (hrest : StopsRun p rest) :
    (run ++ rest).dropWhile p = rest := by
  rw [List.dropWhile_append_of_pos hrun]
  cases rest with
  | nil => rfl
  | cons c rest => rw [List.dropWhile_cons_of_neg (Bool.eq_false_iff.mp (hrest c rfl))]

theorem append_split {p : Char -> Bool} {run run' rest rest' : List Char}
    (hrun : forall c, c ∈ run -> p c = true) (hrun' : forall c, c ∈ run' -> p c = true)
    (hrest : StopsRun p rest) (hrest' : StopsRun p rest')
    (h : run ++ rest = run' ++ rest') : run = run' ∧ rest = rest' := by
  constructor
  · rw [← takeWhile_append hrun hrest, h, takeWhile_append hrun' hrest']
  · rw [← dropWhile_append hrun hrest, h, dropWhile_append hrun' hrest']

/-- The number of bytes of a text in UTF-8. -/
def byteLength (cs : List Char) : Nat :=
  cs.foldl (fun n c => n + c.utf8Size) 0

theorem foldl_utf8Size (n : Nat) (cs : List Char) :
    cs.foldl (fun n c => n + c.utf8Size) n = n + byteLength cs := by
  induction cs generalizing n with
  | nil => rfl
  | cons c cs ih =>
      rw [byteLength, List.foldl_cons, List.foldl_cons, ih, ih (0 + c.utf8Size)]
      omega

theorem byteLength_cons (c : Char) (cs : List Char) :
    byteLength (c :: cs) = c.utf8Size + byteLength cs := by
  rw [byteLength, List.foldl_cons, foldl_utf8Size, Nat.zero_add]

theorem byteLength_append (a b : List Char) :
    byteLength (a ++ b) = byteLength a + byteLength b := by
  rw [byteLength, List.foldl_append, foldl_utf8Size]
  rfl

end Text
end Reckon
