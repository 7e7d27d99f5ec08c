import Reckon.Text.CodePoint
import Reckon.Unicode.Printable

/-!
# Texts made visible

A text is made visible on one line by escapes: quotes and backslashes get a
backslash, line ends, tabs and the null character get a letter, and whatever
else cannot be printed is written by its code point. A joining character is
printed only behind another one.
-/

namespace Reckon
namespace Text

def visibleChar (isFirst : Bool) (c : Char) : List Char :=
  if c = '\x00' then ['\\', '0']
  else if c = '\t' then ['\\', 't']
  else if c = '\r' then ['\\', 'r']
  else if c = '\n' then ['\\', 'n']
  else if c = '\\' || c = '"' || c = '\x27' then ['\\', c]
  else if isFirst && Unicode.isJoining c then codePointEscape c
  else if Unicode.isPrintable c then [c]
  else codePointEscape c

def visible (cs : List Char) : List Char :=
  match cs with
  | [] => []
  | c :: rest => visibleChar true c ++ rest.flatMap (visibleChar false)

end Text
end Reckon
