import Reckon.Token.Basic

/-!
# Words

Words are made of ASCII letters, digits and underscores. A few of them are
booleans, operators or reserved, whatever the case of their letters; all others
are identifiers.
-/

namespace Reckon
namespace Word

def isStart (c : Char) : Bool :=
  c.isAlpha || c == '_'

def isPart (c : Char) : Bool :=
  c.isAlphanum || c == '_'

/-- The feature that a reserved word introduces, the word being in lower case. -/
def feature? (word : String) : Option Feature :=
  match word with
  | "var" | "let" => some .variableDeclarations
  | "const" => some .constantDeclarations
  | "func" => some .functionDeclarations
  | "struct" => some .structDeclarations
  | "enum" => some .enumDeclarations
  | "unit" | "conversion" | "to" => some .units
  | "if" | "else" | "elseif" => some .conditionals
  | "for" => some .forExpressions
  | "filter" => some .filterExpressions
  | "import" => some .imports
  | "string" | "int" | "float" | "timestamp" | "duration" | "boolean" =>
      some .typeAnnotations
  | _ => none

def kindOfLower (word : String) : TokenKind :=
  match word with
  | "true" => .literal (.boolean true)
  | "false" => .literal (.boolean false)
  | "and" => .binary .and
  | "or" => .binary .or
  | _ =>
      match feature? word with
      | some feature => .keyword feature
      | none => .identifier

def kind (cs : List Char) : TokenKind :=
  kindOfLower (String.ofList (cs.map Char.toLower))

end Word
end Reckon
