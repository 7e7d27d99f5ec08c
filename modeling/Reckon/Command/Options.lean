import Reckon.Session.Basic

/-!
# Command-line arguments

The calculator takes options, and possibly one command with the name of a file.
Some options may stand on either side of the command, but each only once on
each side; what is said behind the command wins.

An argument is judged only after everything in front of it: a request for the
version is granted unless something before it was wrong. In front of the command
there is one exception. The value of an option, where it is an argument of its
own, is looked at no sooner than the next option is read or all else is settled,
so that advice on a command can be asked for behind a value that is wrong.
-/

namespace Reckon
namespace Command

inductive ColorMode where
  | auto
  | always
  | never
  deriving DecidableEq, Repr

inductive Action where
  | tokenize
  | parse
  | run
  deriving DecidableEq, Repr

/-- What advice can be asked for. -/
inductive HelpTopic where
  /-- The calculator as a whole. -/
  | calculator
  | action (a : Action)
  /-- The word `help` itself. -/
  | help
  deriving DecidableEq, Repr

/-- What has been said on one side of the command. -/
structure Options where
  eval? : Option String := none
  debug : Bool := false
  color? : Option ColorMode := none
  maxDepth? : Option Nat := none
  deriving DecidableEq, Repr

inductive Request where
  /-- Evaluate the statements of one line. -/
  | evaluate (line : String) (options : Options)
  /-- Deal with a file. -/
  | file (action : Action) (path : String) (options : Options)
  /-- Converse with the user. -/
  | converse (options : Options)
  | version
  | help (topic : HelpTopic)
  /-- The arguments make no sense. -/
  | usageError
  deriving DecidableEq, Repr

/-!
## Single arguments
-/

inductive Setting where
  | eval
  | color
  | maxDepth
  deriving DecidableEq, Repr

inductive Argument where
  /-- Two dashes: only plain words follow. -/
  | escape
  /-- An option, and its value if it is part of the same argument. -/
  | setting (s : Setting) (value? : Option String)
  | debug
  | version
  | help
  | unknown
  /-- A plain word. -/
  | word (w : String)
  deriving DecidableEq, Repr

/-- A long option, the dashes being left out. -/
def longArgument (name : List Char) (value? : Option String) : Argument :=
  match String.ofList name, value? with
  | "eval", _ => .setting .eval value?
  | "color", _ => .setting .color value?
  | "max-depth", _ => .setting .maxDepth value?
  | "debug", none => .debug
  | "version", none => .version
  | "help", none => .help
  | _, _ => .unknown

/-- A value that stands right behind a one-letter option, maybe after an equals
sign. -/
def attachedValue (rest : List Char) : Option String :=
  match rest with
  | [] => none
  | '=' :: value => some (String.ofList value)
  | _ => some (String.ofList rest)

def Argument.ofChars (cs : List Char) : Argument :=
  match cs with
  | ['-', '-'] => .escape
  | '-' :: '-' :: rest =>
      let value? :=
        match rest.dropWhile (· != '=') with
        | [] => none
        | _ :: value => some (String.ofList value)
      longArgument (rest.takeWhile (· != '=')) value?
  | ['-'] => .word "-"
  | '-' :: 'e' :: rest => .setting .eval (attachedValue rest)
  | '-' :: 'V' :: _ => .version
  | '-' :: 'h' :: _ => .help
  | '-' :: _ => .unknown
  | _ => .word (String.ofList cs)

def ColorMode.ofString? : String -> Option ColorMode
  | "auto" => some .auto
  | "always" => some .always
  | "never" => some .never
  | _ => none

/-- The number of depths that 64 bits tell apart. -/
def depthRange : Nat := 18446744073709551616

/-- Reads a depth: a 64-bit number, maybe with a plus sign. -/
def depthOfChars? (cs : List Char) : Option Nat :=
  let digits :=
    match cs with
    | '+' :: rest => rest
    | _ => cs
  if digits.isEmpty || !digits.all Char.isDigit then none
  else
    let n := Nat.ofDigitChars 10 digits 0
    if n < depthRange then some n else none

/-- Gives an option a value, unless it has one already. -/
def Options.set? (options : Options) (s : Setting) (value : String) : Option Options :=
  match s with
  | .eval =>
      if options.eval?.isSome then none else some { options with eval? := some value }
  | .color =>
      match options.color?, ColorMode.ofString? value with
      | none, some mode => some { options with color? := some mode }
      | _, _ => none
  | .maxDepth =>
      match options.maxDepth?, depthOfChars? value.toList with
      | none, some depth => some { options with maxDepth? := some depth }
      | _, _ => none

/-- Turns on the log, unless it has been turned on already. -/
def Options.setDebug? (options : Options) : Option Options :=
  if options.debug then none else some { options with debug := true }

def Action.ofString? : String -> Option Action
  | "tokenize" => some .tokenize
  | "parse" => some .parse
  | "run" => some .run
  | _ => none

/-- The value of an option that has to be the next argument. -/
def valueArgument? (cs : List Char) : Option String :=
  match Argument.ofChars cs with
  | .word w => some w
  | _ => none

/-!
## All arguments
-/

/-- The options in force behind a command, given those in front of it. -/
def Options.behind (before after : Options) : Options :=
  { eval? := before.eval?
    debug := before.debug || after.debug
    color? := after.color?.or before.color?
    maxDepth? := after.maxDepth?.or before.maxDepth? }

/-- What is asked for by a command with a file. A line to evaluate comes first. -/
def fileRequest (action : Action) (path : String) (before after : Options) : Request :=
  let options := before.behind after
  match options.eval? with
  | some line => .evaluate line options
  | none => .file action path options

def plainRequest (options : Options) : Request :=
  match options.eval? with
  | some line => .evaluate line options
  | none => .converse options

/-- Reads the arguments behind a command: the name of its file, and options.
These may be given as long as no `escaped` plain words are called for. What the
arguments ask for instead, if anything, comes as an error. -/
def readFileArguments (action : Action) (escaped : Bool) (path? : Option String)
    (after : Options) (args : List String) : Except Request (String × Options) :=
  match args with
  | [] =>
      match path? with
      | some path => .ok (path, after)
      | none => .error .usageError
  | arg :: rest =>
      let argument := if escaped then .word arg else Argument.ofChars arg.toList
      match argument with
      | .escape => readFileArguments action true path? after rest
      | .help => .error (.help (.action action))
      | .debug =>
          match after.setDebug? with
          | some after => readFileArguments action escaped path? after rest
          | none => .error .usageError
      | .word w =>
          if path?.isSome || w.isEmpty then .error .usageError
          else readFileArguments action escaped (some w) after rest
      | .setting .eval _ => .error .usageError
      | .setting s (some value) =>
          match after.set? s value with
          | some after => readFileArguments action escaped path? after rest
          | none => .error .usageError
      | .setting s none =>
          match rest with
          | [] => .error .usageError
          | next :: rest =>
              match (valueArgument? next.toList).bind (after.set? s) with
              | some after => readFileArguments action escaped path? after rest
              | none => .error .usageError
      | .version => .error .usageError
      | .unknown => .error .usageError

/-- What is asked for behind the word `help`: advice, in general or on one
command. -/
def helpRequest (topics : List String) : Request :=
  match topics with
  | [] => .help .calculator
  | ["help"] => .help .help
  | [topic] =>
      match Action.ofString? topic with
      | some action => .help (.action action)
      | none => .usageError
  | _ => .usageError

structure Opening where
  options : Options := {}
  /-- The option whose value was an argument of its own and has not been looked
  at, and that value. -/
  waiting? : Option (Setting × String) := none
  deriving DecidableEq, Repr

/-- The options once the value that waits has been looked at. -/
def Opening.settled? (opening : Opening) : Option Options :=
  match opening.waiting? with
  | none => some opening.options
  | some (s, value) => opening.options.set? s value

def Opening.request (opening : Opening) : Request :=
  match opening.settled? with
  | some options => plainRequest options
  | none => .usageError

/-- What is asked for by a command and the arguments behind it, which come
first. -/
def Opening.requestFor (opening : Opening) (action : Action) (args : List String) : Request :=
  match readFileArguments action false none {} args with
  | .error request => request
  | .ok (path, after) =>
      match opening.settled? with
      | some options => fileRequest action path options after
      | none => .usageError

def readArguments (opening : Opening) (args : List String) : Request :=
  match args with
  | [] => opening.request
  | arg :: rest =>
      match Argument.ofChars arg.toList with
      | .escape => if rest.isEmpty then opening.request else .usageError
      | .word "help" => helpRequest rest
      | .word w =>
          match Action.ofString? w with
          | some action => opening.requestFor action rest
          | none => .usageError
      | argument =>
          match opening.settled? with
          | none => .usageError
          | some options =>
              match argument with
              | .help => .help .calculator
              | .version => .version
              | .debug =>
                  match options.setDebug? with
                  | some options => readArguments { options } rest
                  | none => .usageError
              | .setting s (some value) =>
                  match options.set? s value with
                  | some options => readArguments { options } rest
                  | none => .usageError
              | .setting s none =>
                  match rest with
                  | [] => .usageError
                  | next :: rest =>
                      match valueArgument? next.toList with
                      | some value => readArguments ⟨options, some (s, value)⟩ rest
                      | none => .usageError
              | _ => .usageError

def Request.ofArguments (args : List String) : Request :=
  readArguments {} args

/-- The settings of a session that serves a request. Expressions are evaluated
to at least twice the depth to which they are read. There are no settings if
64 bits cannot hold twice that depth: asking for them traps. -/
def Options.settings? (options : Options) (isTerminal : Bool) (prompt sourceName : String) :
    Option Settings :=
  let maxDepth := options.maxDepth?.getD defaultMaxDepth
  if depthRange ≤ 2 * maxDepth then none
  else
    some
      { maxDepth
        evalDepth := max defaultEvalDepth (2 * maxDepth)
        color :=
          match options.color?.getD .auto with
          | .always => true
          | .never => false
          | .auto => isTerminal
        prompt
        sourceName }

end Command
end Reckon
