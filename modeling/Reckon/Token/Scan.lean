import Reckon.Token.Word
import Reckon.Unicode.Alphabetic
import Reckon.Unicode.Blank

/-!
# Scanning one token

Each function here splits a text into the token at its start and what follows
it. `lexeme_append_rest` says that nothing is lost, and `lexeme_ne_nil` that a
token is never empty.
-/

namespace Reckon
namespace Scan

/-- A token at the start of a text, and what follows it. -/
structure Result where
  kind : TokenKind
  lexeme : List Char
  rest : List Char
  deriving DecidableEq, Repr

/-!
## White space and comments

A run of white space and comments is one token. A comment lasts from two slashes
to the end of the line.
-/

/-- The run of white space and comments at the start of a text, which may start
inside a comment, and what follows it. -/
def splitBlank (inComment : Bool) (cs : List Char) : List Char × List Char :=
  match inComment, cs with
  | _, [] => ([], [])
  | true, c :: rest =>
      match splitBlank (c != '\n') rest with
      | (run, after) => (c :: run, after)
  | false, '/' :: '/' :: rest =>
      match splitBlank true rest with
      | (run, after) => ('/' :: '/' :: run, after)
  | false, c :: rest =>
      if Unicode.isWhiteSpace c then
        match splitBlank false rest with
        | (run, after) => (c :: run, after)
      else ([], c :: rest)

/-!
## Strings

A string ends at the first quote that no backslash stands before. It cannot run
over the end of a line, unless the line end is escaped. An open string is
illegal up to the end of its first line.
-/

/-- The rest of a string after its opening quote, up to and including the closing
quote, and what follows it. -/
def splitString (escaped : Bool) (cs : List Char) : Option (List Char × List Char) :=
  match cs with
  | [] => none
  | c :: rest =>
      if !escaped && c == '"' then some ([c], rest)
      else if !escaped && c == '\n' then none
      else
        match splitString (!escaped && c == '\\') rest with
        | some (body, after) => some (c :: body, after)
        | none => none

/-- A string token, the text starting with a quote. -/
def string (quote : Char) (cs : List Char) : Result :=
  match splitString false cs with
  | some (body, rest) => ⟨.literal .string, quote :: body, rest⟩
  | none =>
      ⟨.illegal, quote :: cs.takeWhile (· != '\n'), cs.dropWhile (· != '\n')⟩

/-!
## Numbers

Digits are an integer. A fraction or an exponent behind them makes a decimal. If
a letter follows instead, the number and all further letters and numbers make a
duration, known unit or not.
-/

/-- A point and the digits after it, of which there has to be one. -/
def splitFraction (cs : List Char) : List Char × List Char :=
  match cs with
  | '.' :: c :: rest =>
      if c.isDigit then
        ('.' :: c :: rest.takeWhile Char.isDigit, rest.dropWhile Char.isDigit)
      else ([], cs)
  | _ => ([], cs)

def splitSign (cs : List Char) : List Char × List Char :=
  match cs with
  | c :: rest => if c == '+' || c == '-' then ([c], rest) else ([], cs)
  | [] => ([], [])

/-- An exponent: its mark, an optional sign, and the digits after it, of which
there has to be one. -/
def splitExponent? (cs : List Char) : Option (List Char × List Char) :=
  match cs with
  | c :: rest =>
      if c == 'e' || c == 'E' then
        let sign := splitSign rest
        let digits := sign.2.takeWhile Char.isDigit
        if digits.isEmpty then none
        else some (c :: sign.1 ++ digits, sign.2.dropWhile Char.isDigit)
      else none
  | [] => none

/-- A point and the digits after it, of which there may be none. -/
def splitPoint (cs : List Char) : List Char × List Char :=
  match cs with
  | '.' :: rest => ('.' :: rest.takeWhile Char.isDigit, rest.dropWhile Char.isDigit)
  | _ => ([], cs)

theorem splitPoint_append (cs : List Char) :
    (splitPoint cs).1 ++ (splitPoint cs).2 = cs := by
  unfold splitPoint
  split <;> simp

/-- The units of a duration and the numbers between them: letters, and as long as
digits follow them, these with a fraction and again letters. -/
def splitUnits (cs : List Char) : List Char × List Char :=
  let unit := cs.takeWhile Unicode.isAlphabetic
  let afterUnit := cs.dropWhile Unicode.isAlphabetic
  let whole := afterUnit.takeWhile Char.isDigit
  if h : whole = [] then (unit, afterUnit)
  else
    let point := splitPoint (afterUnit.dropWhile Char.isDigit)
    have : point.2.length < cs.length := by
      have hpoint := congrArg List.length
        (splitPoint_append (afterUnit.dropWhile Char.isDigit))
      have hwhole := Text.length_takeWhile_add Char.isDigit afterUnit
      have hunit := Text.length_dropWhile_le Unicode.isAlphabetic cs
      have hpos : 0 < whole.length := List.length_pos_iff.mpr h
      simp only [List.length_append] at hpoint
      show (splitPoint (afterUnit.dropWhile Char.isDigit)).2.length < cs.length
      change 0 < (afterUnit.takeWhile Char.isDigit).length at hpos
      change afterUnit.length ≤ cs.length at hunit
      omega
    let next := splitUnits point.2
    (unit ++ whole ++ point.1 ++ next.1, next.2)
termination_by cs.length

def startsAlphabetic (cs : List Char) : Bool :=
  match cs with
  | c :: _ => Unicode.isAlphabetic c
  | [] => false

/-- A number token, the text starting with a digit. -/
def number (cs : List Char) : Result :=
  let whole := cs.takeWhile Char.isDigit
  let fraction := splitFraction (cs.dropWhile Char.isDigit)
  let form := if fraction.1.isEmpty then LiteralForm.integer else .decimal
  match splitExponent? fraction.2 with
  | some (exponent, rest) =>
      ⟨.literal .decimal, whole ++ fraction.1 ++ exponent, rest⟩
  | none =>
      if startsAlphabetic fraction.2 then
        let units := splitUnits fraction.2
        ⟨.literal .duration, whole ++ fraction.1 ++ units.1, units.2⟩
      else ⟨.literal form, whole ++ fraction.1, fraction.2⟩

/-!
## Operators and marks
-/

/-- The kind of token that two characters make together. -/
def pairKind? (c d : Char) : Option TokenKind :=
  match c, d with
  | '+', '+' => some (.step .increment)
  | '-', '-' => some (.step .decrement)
  | '*', '*' => some (.binary .pow)
  | '<', '<' => some (.binary .shiftLeft)
  | '>', '>' => some (.binary .shiftRight)
  | '<', '=' => some (.binary .le)
  | '>', '=' => some (.binary .ge)
  | '=', '=' => some (.binary .eq)
  | '!', '=' => some (.binary .ne)
  | _, _ => none

/-- The kind of token that a character makes alone. -/
def markKind? (c : Char) : Option TokenKind :=
  match c with
  | '+' => some (.binary .add)
  | '-' => some (.binary .sub)
  | '*' => some (.binary .mul)
  | '/' => some (.binary .div)
  | '&' => some (.binary .bitAnd)
  | '|' => some (.binary .bitOr)
  | '^' => some (.binary .bitXor)
  | '<' => some (.binary .lt)
  | '>' => some (.binary .gt)
  | ';' => some .semicolon
  | '%' => some (.punctuation .percent)
  | '(' => some (.punctuation .leftParen)
  | ')' => some (.punctuation .rightParen)
  | '[' => some (.punctuation .leftBracket)
  | ']' => some (.punctuation .rightBracket)
  | '\x7b' => some (.punctuation .leftBrace)
  | '\x7d' => some (.punctuation .rightBrace)
  | ',' => some (.punctuation .comma)
  | '.' => some (.punctuation .dot)
  | '=' => some (.punctuation .equals)
  | _ => none

def single (c : Char) (rest : List Char) : Result :=
  ⟨(markKind? c).getD .illegal, [c], rest⟩

/-- A token that is neither a word, a number, a string nor blank. -/
def mark (c : Char) (rest : List Char) : Result :=
  match rest with
  | d :: after =>
      match pairKind? c d with
      | some kind => ⟨kind, [c, d], after⟩
      | none => single c rest
  | [] => single c rest

/-!
## Any token
-/

/-- Whether two slashes start the text of these characters. -/
def startsComment (c : Char) (rest : List Char) : Bool :=
  c == '/' && rest.head? == some '/'

/-- The token at the start of a text that is not empty. -/
def first (c : Char) (rest : List Char) : Result :=
  if Unicode.isWhiteSpace c || startsComment c rest then
    let run := splitBlank false (c :: rest)
    ⟨.blank, run.1, run.2⟩
  else if c == '"' then string c rest
  else if c.isDigit then number (c :: rest)
  else if Word.isStart c then
    let word := c :: rest.takeWhile Word.isPart
    ⟨Word.kind word, word, rest.dropWhile Word.isPart⟩
  else mark c rest

/-!
## Nothing is lost
-/

theorem splitBlank_append (inComment : Bool) (cs : List Char) :
    (splitBlank inComment cs).1 ++ (splitBlank inComment cs).2 = cs := by
  fun_induction splitBlank inComment cs <;> simp_all

theorem splitString_append {escaped : Bool} {cs body rest : List Char}
    (h : splitString escaped cs = some (body, rest)) : body ++ rest = cs := by
  induction cs generalizing escaped body with
  | nil => cases h
  | cons c cs ih =>
      rw [splitString] at h
      split at h
      · cases h
        rfl
      · split at h
        · cases h
        · split at h
          · next hrest =>
              cases h
              rw [List.cons_append, ih hrest]
          · cases h

theorem splitFraction_append (cs : List Char) :
    (splitFraction cs).1 ++ (splitFraction cs).2 = cs := by
  unfold splitFraction
  split
  · split <;> simp
  · rfl

theorem splitSign_append (cs : List Char) :
    (splitSign cs).1 ++ (splitSign cs).2 = cs := by
  unfold splitSign
  split
  · split <;> simp
  · rfl

theorem splitExponent?_append {cs exponent rest : List Char}
    (h : splitExponent? cs = some (exponent, rest)) : exponent ++ rest = cs := by
  unfold splitExponent? at h
  split at h
  · next c tail =>
      split at h
      · dsimp only at h
        split at h
        · cases h
        · cases h
          simp [splitSign_append]
      · cases h
  · cases h

theorem splitUnits_append (cs : List Char) :
    (splitUnits cs).1 ++ (splitUnits cs).2 = cs := by
  fun_induction splitUnits cs with
  | case1 cs unit afterUnit whole h =>
      exact List.takeWhile_append_dropWhile
  | case2 cs unit afterUnit whole h point hlt next ih =>
      have hpoint := splitPoint_append (afterUnit.dropWhile Char.isDigit)
      calc
        unit ++ whole ++ point.1 ++ next.1 ++ next.2 =
            unit ++ (whole ++ (point.1 ++ (next.1 ++ next.2))) := by simp
        _ = unit ++ (whole ++ (point.1 ++ point.2)) := by rw [ih]
        _ = unit ++ (whole ++ afterUnit.dropWhile Char.isDigit) := by rw [hpoint]
        _ = unit ++ afterUnit := by rw [List.takeWhile_append_dropWhile]
        _ = cs := List.takeWhile_append_dropWhile

theorem string_append (c : Char) (cs : List Char) :
    (string c cs).lexeme ++ (string c cs).rest = c :: cs := by
  unfold string
  split
  · next h => simp [splitString_append h]
  · simp

theorem number_append (cs : List Char) :
    (number cs).lexeme ++ (number cs).rest = cs := by
  have hfraction := splitFraction_append (cs.dropWhile Char.isDigit)
  have hwhole : cs.takeWhile Char.isDigit ++ cs.dropWhile Char.isDigit = cs :=
    List.takeWhile_append_dropWhile
  unfold number
  dsimp only
  split
  · next h => rw [List.append_assoc, splitExponent?_append h, List.append_assoc,
      hfraction, hwhole]
  · split
    · rw [List.append_assoc, splitUnits_append, List.append_assoc, hfraction, hwhole]
    · rw [List.append_assoc, hfraction, hwhole]

theorem mark_append (c : Char) (rest : List Char) :
    (mark c rest).lexeme ++ (mark c rest).rest = c :: rest := by
  unfold mark
  split
  · split <;> rfl
  · rfl

theorem lexeme_append_rest (c : Char) (rest : List Char) :
    (first c rest).lexeme ++ (first c rest).rest = c :: rest := by
  unfold first
  split
  · exact splitBlank_append false (c :: rest)
  · split
    · exact string_append c rest
    · split
      · exact number_append (c :: rest)
      · split
        · simp
        · exact mark_append c rest

theorem splitBlank_ne_nil {c : Char} {rest : List Char}
    (h : (Unicode.isWhiteSpace c || startsComment c rest) = true) :
    (splitBlank false (c :: rest)).1 ≠ [] := by
  cases hspace : Unicode.isWhiteSpace c with
  | true =>
      unfold splitBlank
      split <;> simp_all
  | false =>
      simp only [hspace, Bool.false_or, startsComment, Bool.and_eq_true,
        beq_iff_eq] at h
      obtain ⟨rfl, hhead⟩ := h
      cases rest with
      | nil => cases hhead
      | cons d after =>
          cases hhead
          simp [splitBlank]

theorem lexeme_ne_nil (c : Char) (rest : List Char) :
    (first c rest).lexeme ≠ [] := by
  unfold first
  split
  · next h => exact splitBlank_ne_nil h
  · split
    · unfold string
      split <;> simp
    · split
      · next hdigit =>
          unfold number
          dsimp only
          rw [List.takeWhile_cons_of_pos hdigit]
          split
          · simp
          · split <;> simp
      · split
        · simp
        · unfold mark
          split
          · split <;> simp [single]
          · simp [single]

theorem length_rest_lt (c : Char) (rest : List Char) :
    (first c rest).rest.length < (c :: rest).length := by
  have happend := congrArg List.length (lexeme_append_rest c rest)
  have hpos := List.length_pos_iff.mpr (lexeme_ne_nil c rest)
  simp only [List.length_append] at happend
  omega

end Scan
end Reckon
