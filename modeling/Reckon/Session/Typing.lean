import Reckon.Text.Grapheme

/-!
# Typed lines

In a conversation a line arrives as it was typed, backspaces included. Each of
them takes back the last cluster that is still there, so that an accented letter
or a flag goes as a whole. With nothing left to take back a backspace does
nothing.

The size of a cluster in bytes is kept in a byte of its own. For a cluster of
more than 255 bytes it is too small, and what is taken back can then end within
a character: such a line is refused.
-/

namespace Reckon
namespace Session

structure TypedLine where
  /-- The text, the last character first. -/
  text : List Char
  /-- The sizes of its clusters in bytes, the last one first. -/
  sizes : List UInt8
  deriving DecidableEq, Repr

def backspace : Char := '\x08'

/-- Drops characters that are `size` bytes together, or nothing if no number of
characters is. -/
def dropBytes? (size : Nat) (cs : List Char) : Option (List Char) :=
  if size = 0 then some cs
  else
    match cs with
    | [] => none
    | c :: rest => if c.utf8Size ≤ size then dropBytes? (size - c.utf8Size) rest else none

def TypedLine.type? (line : TypedLine) (cluster : List Char) : Option TypedLine :=
  if cluster = [backspace] then
    match line.sizes with
    | [] => some line
    | size :: sizes => (dropBytes? size.toNat line.text).map fun text => ⟨text, sizes⟩
  else
    some ⟨cluster.reverse ++ line.text, UInt8.ofNat (Text.byteLength cluster) :: line.sizes⟩

/-- What is left of a line once all of it has been typed. -/
def typed? (cs : List Char) : Option (List Char) :=
  ((Text.graphemes cs).foldlM TypedLine.type? ⟨[], []⟩).map fun line => line.text.reverse

theorem foldlM_type?_of_not_mem (clusters : List (List Char)) (line : TypedLine)
    (h : [backspace] ∉ clusters) :
    (clusters.foldlM TypedLine.type? line).map TypedLine.text =
      some (clusters.flatten.reverse ++ line.text) := by
  induction clusters generalizing line with
  | nil => rfl
  | cons cluster rest ih =>
      have hne : cluster ≠ [backspace] := fun he => h (he ▸ List.mem_cons_self)
      have hrest : [backspace] ∉ rest := fun hm => h (List.mem_cons_of_mem _ hm)
      rw [List.foldlM_cons]
      simp [TypedLine.type?, hne, ih _ hrest]

theorem typed?_of_not_mem {cs : List Char} (h : backspace ∉ cs) : typed? cs = some cs := by
  have hclusters : [backspace] ∉ Text.graphemes cs := by
    intro hmem
    apply h
    rw [← Text.flatten_graphemes cs]
    exact List.mem_flatten_of_mem hmem List.mem_cons_self
  have htext := foldlM_type?_of_not_mem (Text.graphemes cs) ⟨[], []⟩ hclusters
  rw [Text.flatten_graphemes, List.append_nil] at htext
  unfold typed?
  obtain ⟨line, hline, heq⟩ := Option.map_eq_some_iff.mp htext
  rw [hline, Option.map_some, heq, List.reverse_reverse]

/-- A line without the line end that the key at its end leaves. -/
def withoutLineEnd (line : List Char) : List Char :=
  match line.reverse with
  | '\n' :: '\r' :: rest => rest.reverse
  | '\n' :: rest => rest.reverse
  | _ => line

end Session
end Reckon
