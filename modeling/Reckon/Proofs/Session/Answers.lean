import Mathlib.Algebra.Ring.Nat
import Reckon.Session.Basic

/-!
# What a session keeps

A session keeps nothing between lines but a count. Each line is answered as a new session
answers it, and the count goes up by the number of expressions that were evaluated for
it: by one for each value and for each evaluation that failed. A line that traps is the
last one.
-/

namespace Reckon

namespace Reply

/-- The responses of a reply. None are given on leaving, or if the line traps. -/
def toList : Reply -> List Response
  | .quit => []
  | .responses rs => rs
  | .trap => []

end Reply

namespace Session

/-- The reply of a new session to a line. -/
def firstReply (settings : Settings) (line : List Char) : Reply :=
  ((new settings).feedLine line).1

end Session
end Reckon
