import Reckon.Text.Visible
import Reckon.Token.Basic

/-!
# Listing tokens

Tokens are listed one on a line: the kind, the line and column counted from one,
and the text, each in a column of its own.
-/

namespace Reckon
namespace Token

def padRight (width : Nat) (s : String) : String :=
  String.ofList (s.toList.rightpad width ' ')

def padLeft (width : Nat) (s : String) : String :=
  String.ofList (s.toList.leftpad width ' ')

def listing (t : Token) : String :=
  let line := padLeft 3 (toString (t.position.line + 1))
  let column := padRight 3 (toString (t.position.column + 1))
  s!"{padRight 8 t.kind.name} {line}:{column} {String.ofList (Text.visible t.lexeme)}"

def complaint (t : Token) : String :=
  s!"[line {t.position.line + 1}] Error: Unexpected character: {t.text}"

end Token
end Reckon
