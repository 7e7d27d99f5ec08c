import Reckon.Command.Report

/-!
# The calculator as a program

Files are read as far as a request names them. A conversation is held line by
line, so that every answer appears before the next line is read.
-/

namespace Reckon
namespace Command

/-- The bytes of a file, or nothing if it cannot be read. -/
def fileBytes? (path : String) : IO (Option (List UInt8)) := do
  try
    let bytes <- IO.FS.readBinFile path
    pure (some bytes.toList)
  catch _ =>
    pure none

def printReport (report : Report) : IO UInt32 := do
  let stdout <- IO.getStdout
  let stderr <- IO.getStderr
  stdout.putStr report.output
  stdout.flush
  for line in report.complaints do
    stderr.putStrLn line
  pure report.status

/-- Holds a conversation. -/
partial def talk (isTerminal : Bool) (session : Session) : IO UInt32 := do
  let stdin <- IO.getStdin
  let stdout <- IO.getStdout
  if isTerminal then
    stdout.putStr session.settings.prompt
    stdout.flush
  let line <- stdin.getLine
  if line.isEmpty then
    stdout.putStr (Session.farewell session.settings)
    pure 0
  else
    match Session.typedLine line.toUTF8.toList with
    | .error fault => printReport (reportFault "" session.settings.sourceName fault)
    | .ok line =>
        match session.feedLine line with
        | (.quit, session) =>
            stdout.putStr (Session.farewell session.settings)
            pure 0
        | (.trap, _) => printReport (trapped "")
        | (.responses rs, session) =>
            for response in rs do
              stdout.putStr (Session.responseLine session.settings response)
            stdout.flush
            talk isTerminal session

end Command
end Reckon

open Reckon Command in
/-- Runs the calculator on its arguments. -/
def main (args : List String) : IO UInt32 := do
  let isTerminal <- (<- IO.getStdout).isTty
  match Request.ofArguments args with
  | .converse options =>
      match plainSettings? options isTerminal with
      | some settings => talk isTerminal (.new settings)
      | none => printReport (trapped "")
  | .file action path options =>
      let contents? <- fileBytes? path
      printReport (performFile action path options isTerminal contents?)
  | request => printReport (perform isTerminal (fun _ => none) [] request)
