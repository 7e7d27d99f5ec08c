import Reckon.Duration.Basic
import Reckon.Numeral.Digits

/-!
# Writing durations

Below a second a duration is written in the largest unit that keeps its whole
part positive, with a fraction as needed; from a second on in hours, minutes
and seconds, leaving out leading parts that are zero. Zero is `0s`.
-/

namespace Reckon
namespace Duration

open Numeral

/-- A fraction of `places` digits behind a point, without trailing zeros. A zero
fraction is not written at all. -/
def fractionChars (value places : Nat) : List Char :=
  if value = 0 then []
  else '.' :: ((padded places value).reverse.dropWhile (· == '0')).reverse

/-- A number of nanoseconds in a unit of `tenPow places` nanoseconds. -/
def scaledChars (nanoseconds places : Nat) (unit : List Char) : List Char :=
  digits (nanoseconds / tenPow places) ++
    fractionChars (nanoseconds % tenPow places) places ++ unit

/-- Seconds with their fraction, after the hours and minutes. -/
def clockChars (nanoseconds : Nat) : List Char :=
  let seconds := nanoseconds / 1000000000
  let minutes := seconds / 60
  let hours := minutes / 60
  let secondsChars :=
    digits (seconds % 60) ++ fractionChars (nanoseconds % 1000000000) 9 ++ ['s']
  if minutes = 0 then secondsChars
  else if hours = 0 then digits minutes ++ 'm' :: secondsChars
  else digits hours ++ 'h' :: digits (minutes % 60) ++ 'm' :: secondsChars

def magnitudeChars (nanoseconds : Nat) : List Char :=
  if nanoseconds = 0 then ['0', 's']
  else if nanoseconds < 1000 then scaledChars nanoseconds 0 ['n', 's']
  else if nanoseconds < 1000000 then scaledChars nanoseconds 3 ['\u00b5', 's']
  else if nanoseconds < 1000000000 then scaledChars nanoseconds 6 ['m', 's']
  else clockChars nanoseconds

def chars (d : Duration) : List Char :=
  if d.nanoseconds < 0 then '-' :: magnitudeChars d.nanoseconds.natAbs
  else magnitudeChars d.nanoseconds.natAbs

end Duration
end Reckon
