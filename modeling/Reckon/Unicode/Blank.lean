import Reckon.Unicode.Ranges

/-!
# White space and control characters

White space, together with comments, separates tokens and carries no meaning
otherwise. Control characters cannot be written as themselves inside a quoted
string.
-/

namespace Reckon
namespace Unicode

def whiteSpaceRanges : List (Nat × Nat) :=
  [(0x09, 0x0D), (0x20, 0x20), (0x85, 0x85), (0xA0, 0xA0), (0x1680, 0x1680),
    (0x2000, 0x200A), (0x2028, 0x2029), (0x202F, 0x202F), (0x205F, 0x205F),
    (0x3000, 0x3000)]

def isWhiteSpace (c : Char) : Bool :=
  inRanges whiteSpaceRanges c.toNat

/-- Whether a character is a control character, general category `Cc`. -/
def isControl (c : Char) : Bool :=
  inRanges [(0x00, 0x1F), (0x7F, 0x9F)] c.toNat

theorem isWhiteSpace_of_isWhitespace {c : Char} (h : c.isWhitespace = true) :
    isWhiteSpace c = true := by
  simp only [Char.isWhitespace, Bool.or_eq_true, decide_eq_true_eq] at h
  rcases h with ((rfl | rfl) | rfl) | rfl <;> decide

end Unicode
end Reckon
