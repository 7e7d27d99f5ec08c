import Reckon.Proofs.Session.Answers
import Reckon.Proofs.Session.Lines

/-!
# Running a session over an input

A run answers the lines of its input one after the other, as if they were fed to the
session, up to the first line that asks to leave, is not text, or traps. What stands behind
that line has no effect, and what was written and counted before it stays.
-/

namespace Reckon

/-- The line that a response is written with, without colour. -/
def Response.line : Response -> String
  | .value text => text ++ "\n"
  | .failure f => f.message ++ "\n"
  | .trap => ""

namespace Session

/-- What is written behind the last prompt, and the fault that a run ends with. The lines
are those from the first on that is not answered; if there are none, the run ends with
`closing`, and at a line that asks to leave it ends with `leaving`. -/
def ending (settings : Settings) (closing leaving : String) :
    List (List UInt8) -> String × Option LineFault
  | [] => (closing, none)
  | line :: _ =>
      match decodeLine? line with
      | some cs => if firstReply settings cs = .trap then ("", some .trap) else (leaving, none)
      | none => ("", some .encoding)

section Transcripts

variable (prompt closing : String)

section Stopping

variable (settings : Settings) {line : List UInt8}

end Stopping

section Steps

variable {s : Session} {line : List UInt8} {cs : List Char}

end Steps

end Transcripts

/-!
## The whole run
-/

end Session
end Reckon
