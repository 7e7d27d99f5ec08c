import Reckon.Text.CodePoint
import Reckon.Text.Runs
import Reckon.Unicode.Blank

/-!
# Quoted strings

Strings are written between double quotes. Quotes, backslashes, line ends, tabs
and other control characters are written as escapes that start with a
backslash; `\u` with a code point in braces stands for any character.
-/

namespace Reckon
namespace Text

/-!
## Writing
-/

def encodeChar (c : Char) : List Char :=
  if c = '"' then ['\\', '"']
  else if c = '\\' then ['\\', '\\']
  else if c = '\n' then ['\\', 'n']
  else if c = '\r' then ['\\', 'r']
  else if c = '\t' then ['\\', 't']
  else if Unicode.isControl c then codePointEscape c
  else [c]

def quote (cs : List Char) : List Char :=
  '"' :: cs.flatMap encodeChar ++ ['"']

/-!
## Reading
-/

inductive QuotedFault where
  /-- The text does not stand between two quotes. -/
  | missingQuotes
  /-- No code point in braces follows `\u`. -/
  | missingBraces
  /-- What stands in the braces is not the code point of a character. -/
  | invalidCodePoint (code : List Char)
  /-- The character after the backslash starts no escape. -/
  | unknownEscape (c : Char)
  /-- The text ends with a lone backslash. -/
  | danglingBackslash
  deriving DecidableEq, Repr

def QuotedFault.message : QuotedFault -> String
  | .missingQuotes => "missing quotes"
  | .missingBraces => "expected `\\u\x7b...\x7d`"
  | .invalidCodePoint code =>
      s!"invalid unicode escape `\\u\x7b{String.ofList code}\x7d`"
  | .unknownEscape c => s!"unknown escape `\\{c}`"
  | .danglingBackslash => "dangling `\\`"

def hexValue? (c : Char) : Option Nat :=
  if c.isDigit then some (c.toNat - '0'.toNat)
  else if 'a' ≤ c ∧ c ≤ 'f' then some (c.toNat - 'a'.toNat + 10)
  else if 'A' ≤ c ∧ c ≤ 'F' then some (c.toNat - 'A'.toNat + 10)
  else none

/-- Reads hexadecimal digits after the number `n`. -/
def hexDigits? (n : Nat) : List Char -> Option Nat
  | [] => some n
  | c :: rest =>
      match hexValue? c with
      | some d => hexDigits? (16 * n + d) rest
      | none => none

/-- Reads a hexadecimal number of at least one digit. A plus sign may stand in
front of it. -/
def hexNumber? (cs : List Char) : Option Nat :=
  match cs with
  | [] => none
  | ['+'] => none
  | '+' :: rest => hexDigits? 0 rest
  | _ => hexDigits? 0 cs

/-- The character of a code point. Surrogates are not characters. -/
def charOfCode? (n : Nat) : Option Char :=
  if h : n.isValidChar then some (Char.ofNatAux n h) else none

/-- The character that an escape of one letter stands for. -/
def simpleEscape? (c : Char) : Option Char :=
  match c with
  | 'n' => some '\n'
  | 'r' => some '\r'
  | 't' => some '\t'
  | '0' => some '\x00'
  | '\\' => some '\\'
  | '"' => some '"'
  | _ => none

/-- Reads a code point in braces, and gives what follows it. -/
def splitCodePoint (cs : List Char) : Except QuotedFault (Char × List Char) :=
  match cs with
  | '\x7b' :: rest =>
      let code := rest.takeWhile (· != '\x7d')
      match rest.dropWhile (· != '\x7d') with
      | [] => .error .missingBraces
      | _ :: after =>
          match (hexNumber? code).bind charOfCode? with
          | some c => .ok (c, after)
          | none => .error (.invalidCodePoint code)
  | _ => .error .missingBraces

/-- Reads the rest of an escape, after the backslash. -/
def splitEscape (cs : List Char) : Except QuotedFault (Char × List Char) :=
  match cs with
  | [] => .error .danglingBackslash
  | c :: rest =>
      match simpleEscape? c with
      | some d => .ok (d, rest)
      | none => if c = 'u' then splitCodePoint rest else .error (.unknownEscape c)

theorem length_splitCodePoint_lt {cs : List Char} {c : Char} {rest : List Char}
    (h : splitCodePoint cs = .ok (c, rest)) : rest.length < cs.length := by
  unfold splitCodePoint at h
  split at h
  · next body =>
      split at h
      · cases h
      · next d after hafter =>
          dsimp only at h
          split at h
          · cases h
            have hle := length_dropWhile_le (· != '\x7d') body
            rw [hafter] at hle
            simp only [List.length_cons] at hle ⊢
            omega
          · cases h
  · cases h

theorem length_splitEscape_lt {cs : List Char} {c : Char} {rest : List Char}
    (h : splitEscape cs = .ok (c, rest)) : rest.length < cs.length := by
  unfold splitEscape at h
  split at h
  · cases h
  · split at h
    · cases h
      exact Nat.lt_succ_self _
    · split at h
      · exact Nat.lt_succ_of_lt (length_splitCodePoint_lt h)
      · cases h

/-- Resolves the escapes of a text from left to right. -/
def decode (cs : List Char) : Except QuotedFault (List Char) :=
  match cs with
  | [] => .ok []
  | c :: rest =>
      if c = '\\' then
        match h : splitEscape rest with
        | .ok (d, after) =>
            have : after.length < (c :: rest).length :=
              Nat.lt_succ_of_lt (length_splitEscape_lt h)
            (decode after).map (d :: ·)
        | .error fault => .error fault
      else (decode rest).map (c :: ·)
termination_by cs.length
decreasing_by
  · exact this
  · exact Nat.lt_succ_self _

def unquote (cs : List Char) : Except QuotedFault (List Char) :=
  match cs with
  | '"' :: rest =>
      if rest.getLast? = some '"' then decode rest.dropLast
      else .error .missingQuotes
  | _ => .error .missingQuotes

end Text
end Reckon
