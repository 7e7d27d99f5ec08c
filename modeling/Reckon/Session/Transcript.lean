import Reckon.Session.Basic
import Reckon.Session.Typing

/-!
# Transcripts

A session can be run over a whole input, given as bytes. It writes a prompt
before each line that it reads, and a line for each response. It ends with the
input, at a line that asks to leave, or at a line that cannot be read or traps.
-/

namespace Reckon

inductive Hue where
  | green
  | red
  | yellow
  deriving DecidableEq, Repr

/-- The number of a colour among the colours of a terminal. -/
def Hue.code : Hue -> Nat
  | .green => 10
  | .red => 9
  | .yellow => 11

inductive LineFault where
  /-- It is not UTF-8. -/
  | encoding
  /-- A backspace takes back a part of a character. -/
  | backspace
  /-- Answering it traps. -/
  | trap
  deriving DecidableEq, Repr

/-- What a session wrote, piece by piece, and how it ended. -/
structure Transcript where
  written : List String
  session : Session
  /-- The fault of the line at which it ended, if there is one. -/
  fault? : Option LineFault
  deriving DecidableEq, Repr

namespace Transcript

def output (t : Transcript) : String :=
  String.join t.written

end Transcript

namespace Session

/-- A line of output, in colour if that is asked for. -/
def outputLine (settings : Settings) (hue : Hue) (text : String) : String :=
  if settings.color then s!"\x1b[38;5;{hue.code}m{text}\x1b[39m\n"
  else s!"{text}\n"

def responseLine (settings : Settings) : Response -> String
  | .value text => outputLine settings .green text
  | .failure f => outputLine settings .red f.message
  | .trap => ""

def farewell (settings : Settings) : String :=
  outputLine settings .yellow "\n Exiting..."

/-- The first line of an input, with its line end, and the lines behind it. -/
def splitLine (bytes : List UInt8) : List UInt8 × List UInt8 :=
  match bytes.dropWhile (· != 10) with
  | [] => (bytes, [])
  | lineEnd :: rest => (bytes.takeWhile (· != 10) ++ [lineEnd], rest)

theorem splitLine_append (bytes : List UInt8) :
    (splitLine bytes).1 ++ (splitLine bytes).2 = bytes := by
  unfold splitLine
  split
  · simp
  · next h =>
      rw [List.append_assoc, List.singleton_append, ← h,
        List.takeWhile_append_dropWhile]

theorem length_splitLine_lt {bytes : List UInt8} (h : bytes ≠ []) :
    (splitLine bytes).2.length < bytes.length := by
  have hpos := List.length_pos_iff.mpr h
  have happend := congrArg List.length (splitLine_append bytes)
  unfold splitLine at happend ⊢
  split
  · exact hpos
  · next hdrop =>
      simp only [hdrop, List.length_append, List.length_singleton] at happend
      dsimp only
      omega

/-- The characters that bytes stand for in UTF-8. -/
def decodeLine? (bytes : List UInt8) : Option (List Char) :=
  (String.fromUTF8? ⟨bytes.toArray⟩).map String.toList

def writtenLine (bytes : List UInt8) : Except LineFault (List Char) :=
  match decodeLine? bytes with
  | none => .error .encoding
  | some line => .ok line

def typedLine (bytes : List UInt8) : Except LineFault (List Char) :=
  match decodeLine? bytes with
  | none => .error .encoding
  | some line =>
      match typed? (withoutLineEnd line) with
      | none => .error .backspace
      | some line => .ok line

/-- Runs a session over an input whose lines are read by `readLine`, writing
`prompt` before each line is read, and `closing` at the end of the input. -/
def transcript (readLine : List UInt8 -> Except LineFault (List Char))
    (prompt closing : String) (s : Session) (bytes : List UInt8) : Transcript :=
  if h : bytes = [] then ⟨[prompt, closing], s, none⟩
  else
    have := length_splitLine_lt h
    match readLine (splitLine bytes).1 with
    | .error fault => ⟨[prompt], s, some fault⟩
    | .ok line =>
        match s.feedLine line with
        | (.quit, s) => ⟨[prompt, farewell s.settings], s, none⟩
        | (.trap, s) => ⟨[prompt], s, some .trap⟩
        | (.responses rs, next) =>
            let rest := transcript readLine prompt closing next (splitLine bytes).2
            ⟨prompt :: rs.map (responseLine s.settings) ++ rest.written,
              rest.session, rest.fault?⟩
termination_by bytes.length

/-- Runs a session over an input. If there is a prompt, the line of the last one
is ended. -/
def run (s : Session) (bytes : List UInt8) : Transcript :=
  let closing := if s.settings.prompt.isEmpty then "" else "\n"
  transcript writtenLine s.settings.prompt closing s bytes

/-- Runs a session as a conversation, whose lines are typed, and which ends with
the same words whether the input ends or not. Prompts are not a part of the
output. -/
def converse (s : Session) (bytes : List UInt8) : Transcript :=
  transcript typedLine "" (farewell s.settings) s bytes

end Session
end Reckon
