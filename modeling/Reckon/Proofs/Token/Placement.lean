import Mathlib.Data.List.Induction
import Reckon.Token.Position

/-!
# What positions mean

A position is moved along a text character by character. The numbers that it
ends with are those that a count of the text behind it gives: the line ends in
it, the characters after the last of them, and its bytes. The bytes between two
such places are the bytes of the characters between them, and no character is
split at either.
-/

namespace Reckon
namespace Text

/-!
## Bytes
-/

theorem byteLength_eq_utf8ByteSize (cs : List Char) :
    byteLength cs = (String.ofList cs).utf8ByteSize := by
  induction cs with
  | nil => rfl
  | cons c cs ih =>
      have hsplit : String.ofList (c :: cs) = String.singleton c ++ String.ofList cs := by
        rw [String.singleton_eq_ofList, ← String.ofList_append]
        rfl
      rw [byteLength_cons, ih, hsplit, String.utf8ByteSize_append,
        String.utf8ByteSize_singleton]

/-- A piece of a text that is cut out by two byte offsets, neither of which lies
within a character or behind the text. -/
structure IsSlice (text : String) (start stop : Nat) (piece : String) : Prop where
  start_valid : (String.Pos.Raw.mk start).IsValid text
  stop_valid : (String.Pos.Raw.mk stop).IsValid text
  bytes_eq : text.toByteArray.extract start stop = piece.toByteArray

theorem isValid_byteLength (a b : List Char) :
    (String.Pos.Raw.mk (byteLength a)).IsValid (String.ofList (a ++ b)) := by
  rw [String.Pos.Raw.isValid_ofList]
  exact ⟨a.length, by rw [List.take_left, byteLength_eq_utf8ByteSize]⟩

theorem isSlice_append (a b c : List Char) :
    IsSlice (String.ofList (a ++ b ++ c)) (byteLength a) (byteLength (a ++ b))
      (String.ofList b) := by
  constructor
  · rw [List.append_assoc]
    exact isValid_byteLength a (b ++ c)
  · exact isValid_byteLength (a ++ b) c
  · have ha : byteLength a = (String.ofList a).toByteArray.size := by
      rw [byteLength_eq_utf8ByteSize, String.size_toByteArray]
    have hb : byteLength b = (String.ofList b).toByteArray.size := by
      rw [byteLength_eq_utf8ByteSize, String.size_toByteArray]
    have hbehind := ByteArray.extract_append_size_add (i := 0) (j := byteLength b)
      (a := (String.ofList a).toByteArray) (b := (String.ofList (b ++ c)).toByteArray)
    rw [byteLength_append, List.append_assoc, String.ofList_append,
      String.toByteArray_append, ha]
    rw [Nat.add_zero] at hbehind
    rw [hbehind, String.ofList_append, String.toByteArray_append]
    exact ByteArray.extract_append_eq_left hb

/-!
## Lines
-/

/-- The characters of a text behind its last line end. -/
def lastLine (cs : List Char) : List Char :=
  (cs.reverse.takeWhile (· != '\n')).reverse

theorem lastLine_concat (cs : List Char) (c : Char) :
    lastLine (cs ++ [c]) = if c = '\n' then [] else lastLine cs ++ [c] := by
  unfold lastLine
  by_cases h : c = '\n'
  · simp [h]
  · simp [h]

theorem exists_append_lastLine (cs : List Char) :
    exists finished, finished ++ lastLine cs = cs := by
  refine ⟨(cs.reverse.dropWhile (· != '\n')).reverse, ?_⟩
  rw [lastLine, ← List.reverse_append, List.takeWhile_append_dropWhile,
    List.reverse_reverse]

end Text

namespace Position

theorem advance_concat (p : Position) (cs : List Char) (c : Char) :
    p.advance (cs ++ [c]) = (p.advance cs).step c :=
  advance_append p cs [c]

/-- The position behind a text counts its line ends, the characters of its last
line and its bytes. -/
theorem advance_start (cs : List Char) :
    start.advance cs =
      ⟨cs.count '\n', (Text.lastLine cs).length, Text.byteLength cs⟩ := by
  induction cs using List.reverseRecOn with
  | nil => rfl
  | append_singleton cs c ih =>
      rw [advance_concat, ih, Text.lastLine_concat, Text.byteLength_append]
      by_cases h : c = '\n'
      · simp [step, h, Text.byteLength]
      · simp [step, h, Text.byteLength]

end Position
end Reckon
