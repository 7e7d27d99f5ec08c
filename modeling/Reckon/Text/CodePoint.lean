/-!
# Escapes by code point

Any character can be written as `\u` followed by its code point in braces.
-/

namespace Reckon
namespace Text

/-- The escape of a character by its code point, in lower case hexadecimal. -/
def codePointEscape (c : Char) : List Char :=
  ['\\', 'u', '\x7b'] ++ Nat.toDigits 16 c.toNat ++ ['\x7d']

end Text
end Reckon
