import Reckon.Decimal.Basic
import Reckon.Numeral.Integer

/-!
# Decimal numerals

Reading decimals. A decimal numeral is an integer numeral with at most one
point in it, and may be followed by an exponent. The digits after the point and
the exponent together give the scale; trailing zeros are kept. Exponents lie
within 128-bit and scales within 64-bit signed integers.
-/

namespace Reckon
namespace Decimal

inductive Fault where
  /-- Nothing stands before the exponent. -/
  | empty
  /-- The digits of the number, or of the exponent, are not a numeral. -/
  | numeral (fault : Numeral.Fault)
  /-- The exponent is above the range of exponents. -/
  | exponentTooLarge
  /-- The exponent is below the range of exponents. -/
  | exponentTooSmall
  /-- The scale of the text is outside the range of scales. -/
  | scaleOverflow (text : List Char)
  deriving DecidableEq, Repr

def Fault.message : Fault -> String
  | .empty => "Failed to parse empty string"
  | .numeral fault => fault.message
  | .exponentTooLarge => "number too large to fit in target type"
  | .exponentTooSmall => "number too small to fit in target type"
  | .scaleOverflow text => s!"Exponent overflow when parsing '{String.ofList text}'"

/-- Reads digits after the number `n`, up to a limit. The first character that
is no digit, or that carries the number past the limit, is at fault. -/
def digitsWithin (limit : Nat) (overflow : Fault) (n : Nat) :
    List Char -> Except Fault Nat
  | [] => .ok n
  | c :: rest =>
      if c.isDigit then
        let next := 10 * n + (c.toNat - '0'.toNat)
        if limit < next then .error overflow
        else digitsWithin limit overflow next rest
      else .error (.numeral .invalidDigit)

/-- The number of negative 128-bit integers, two to the power of 127. -/
def exponentRange : Nat := 170141183460469231731687303715884105728

def exponentOfChars (cs : List Char) : Except Fault Int :=
  match cs with
  | [] => .error (.numeral .empty)
  | ['-'] => .error (.numeral .invalidDigit)
  | ['+'] => .error (.numeral .invalidDigit)
  | '-' :: rest =>
      (digitsWithin exponentRange .exponentTooSmall 0 rest).map fun (n : Nat) => -(n : Int)
  | '+' :: rest =>
      (digitsWithin (exponentRange - 1) .exponentTooLarge 0 rest).map fun (n : Nat) => (n : Int)
  | _ =>
      (digitsWithin (exponentRange - 1) .exponentTooLarge 0 cs).map fun (n : Nat) => (n : Int)

def isExponentMark (c : Char) : Bool :=
  c == 'e' || c == 'E'

/-- The digits of a numeral without its point, and how many of them follow it.
A point at the very end counts for nothing. -/
def splitPoint (cs : List Char) : List Char × Nat :=
  let whole := cs.takeWhile (· != '.')
  match cs.dropWhile (· != '.') with
  | _ :: fraction => (whole ++ fraction, fraction.countP (· != '_'))
  | [] => (whole, 0)

/-- Whether a scale is a signed 64-bit integer. -/
def isScale (scale : Int) : Bool :=
  -9223372036854775808 ≤ scale && scale ≤ 9223372036854775807

def ofChars (cs : List Char) : Except Fault Decimal := do
  let base := cs.takeWhile fun c => !isExponentMark c
  let exponent <-
    match cs.dropWhile fun c => !isExponentMark c with
    | [] => pure 0
    | _ :: rest => exponentOfChars rest
  if base.isEmpty then
    throw .empty
  let (digits, places) := splitPoint base
  let scale := places - exponent
  if !isScale scale then
    throw (.scaleOverflow cs)
  let coefficient <- (Numeral.integerOfChars digits).mapError .numeral
  pure ⟨coefficient, scale⟩

end Decimal
end Reckon
