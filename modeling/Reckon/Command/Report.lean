import Reckon.Command.Help
import Reckon.Session.Transcript
import Reckon.Token.Listing

/-!
# Carrying out requests

What the calculator writes, what it complains about, and the status with which
it ends. Files and input come as bytes.
-/

namespace Reckon
namespace Command

structure Report where
  output : String
  /-- Lines for the reader that are not a part of the output. -/
  complaints : List String
  status : UInt32
  deriving DecidableEq, Repr

/-- The text of a file, if there is such a file and it is UTF-8. -/
def fileText? (contents? : Option (List UInt8)) : Option (List Char) :=
  contents?.bind Session.decodeLine?

def unreadable (path : String) : Report :=
  ⟨"", [s!"Error: reading `{path}` failed"], 1⟩

/-- The report of a program that traps, with what it has written until then. -/
def trapped (output : String) : Report :=
  ⟨output, ["the arithmetic leaves its range"], 101⟩

def complaint (f : Failure) : String :=
  s!"Error: {f.message}"

/-- The line of output for a response, if it is a value. -/
def valueLine? : Response -> Option String
  | .value text => some s!"{text}\n"
  | .failure _ => none
  | .trap => none

/-- The complaint about a response, if it is a failure. -/
def failureLine? : Response -> Option String
  | .value _ => none
  | .failure f => some (complaint f)
  | .trap => none

def evaluate (settings : Settings) (line : List Char) : Report :=
  match ((Session.new settings).feedLine line).1 with
  | .quit => ⟨"", [], 0⟩
  | .trap => trapped ""
  | .responses rs =>
      let complaints := rs.filterMap failureLine?
      ⟨String.join (rs.filterMap valueLine?), complaints,
        if complaints.isEmpty then 0 else 1⟩

/-- Lists the tokens of a text, except blanks. -/
def tokenize (text : List Char) : Report :=
  let tokens := (Lexer.ofChars text).tokens
  let illegal := tokens.filter fun t => t.kind == .illegal
  let listed := tokens.filter fun t => t.kind != .illegal && t.kind != .blank
  ⟨String.join (listed.map fun t => s!"{t.listing}\n") ++ "EOF\n",
    illegal.map Token.complaint, if illegal.isEmpty then 0 else 65⟩

/-- Whether an expression was read that can be shown. -/
def isShown : Except SyntaxError Expr -> Bool
  | .ok e => e.canShow
  | .error _ => false

/-- Shows the expressions of a text, up to the first error. -/
def parse (maxDepth : Nat) (text : List Char) : Report :=
  let found := Parser.statements maxDepth (TokenBuffer.ofChars text)
  let expressions := (found.takeWhile isShown).filterMap Except.toOption
  let output := String.join (expressions.map fun e => s!"{e.text}\n")
  match found.find? fun result => !isShown result with
  | some (.error e) =>
      if e.fault.isTrap then trapped output else ⟨output, [complaint (.text e)], 1⟩
  | some (.ok e) => trapped (output ++ String.ofList e.charsShown)
  | none => ⟨output, [], 0⟩

/-- The report on a line that cannot be answered, behind what was written before
it. A backspace within a character leaves nothing to go on with. -/
def reportFault (output name : String) : LineFault -> Report
  | .encoding => ⟨output, [s!"Error: running `{name}` failed"], 1⟩
  | .backspace => ⟨output, ["a backspace ends within a character"], 101⟩
  | .trap => trapped output

def reportTranscript (t : Transcript) (name : String) : Report :=
  match t.fault? with
  | none => ⟨t.output, [], 0⟩
  | some fault => reportFault t.output name fault

def performFile (action : Action) (path : String) (options : Options) (isTerminal : Bool)
    (contents? : Option (List UInt8)) : Report :=
  match action with
  | .tokenize =>
      match fileText? contents? with
      | some text => tokenize text
      | none => unreadable path
  | .parse =>
      match fileText? contents? with
      | some text => parse (options.maxDepth?.getD defaultMaxDepth) text
      | none => unreadable path
  | .run =>
      match contents? with
      | some bytes =>
          match options.settings? isTerminal "" path with
          | some settings => reportTranscript ((Session.new settings).run bytes) path
          | none => trapped ""
      | none => unreadable path

def plainSettings? (options : Options) (isTerminal : Bool) : Option Settings :=
  let default : Settings := {}
  options.settings? isTerminal default.prompt default.sourceName

def versionText : String := "calc 0.1.0\n"

/-- Carries out a request, given the contents of files and the input. -/
def perform (isTerminal : Bool) (readFile? : String -> Option (List UInt8))
    (input : List UInt8) : Request -> Report
  | .evaluate line options =>
      match plainSettings? options isTerminal with
      | some settings => evaluate settings line.toList
      | none => trapped ""
  | .file action path options =>
      performFile action path options isTerminal (readFile? path)
  | .converse options =>
      match plainSettings? options isTerminal with
      | some settings =>
          reportTranscript ((Session.new settings).converse input) settings.sourceName
      | none => trapped ""
  | .version => ⟨versionText, [], 0⟩
  | .help topic => ⟨topic.text, [], 0⟩
  | .usageError => ⟨"", ["error: the arguments are not understood"], 2⟩

end Command
end Reckon
