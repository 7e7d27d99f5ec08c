import Reckon.Command.Options

/-!
# Advice on the command line

The advice on a topic says how the arguments are put together, and lists the
commands, arguments and options that may be given, with what each of them means
in a column of its own.
-/

namespace Reckon
namespace Command

def Action.name : Action -> String
  | .tokenize => "tokenize"
  | .parse => "parse"
  | .run => "run"

theorem Action.ofString?_name (action : Action) : Action.ofString? action.name = some action := by
  cases action <;> rfl

/-- The options that may stand on either side of a command. -/
def sharedOptionLines : String :=
  "      --debug                  Log every scanned token and evaluation to stderr\n" ++
    "      --color <COLOR>          [default: auto] [possible values: auto, always, never]\n" ++
    "      --max-depth <MAX_DEPTH>  Longest operator chain accepted in one expression " ++
    "[default: 256]\n" ++
    "  -h, --help                   Print help\n"

def helpSummary : String := "Print this message or the help of the given subcommand(s)"

def calculatorHelp : String :=
  "Arbitrary-precision expression calculator\n\n" ++
    "Usage: calc [OPTIONS] [COMMAND]\n\n" ++
    "Commands:\n" ++
    "  tokenize  \n" ++
    "  parse     \n" ++
    "  run       \n" ++
    s!"  help      {helpSummary}\n\n" ++
    "Options:\n" ++
    "  -e, --eval <EVAL>            Evaluate a line of input and exit\n" ++
    sharedOptionLines ++
    "  -V, --version                Print version\n"

def Action.help (action : Action) : String :=
  s!"Usage: calc {action.name} [OPTIONS] <FILENAME>\n\n" ++
    "Arguments:\n" ++
    "  <FILENAME>  \n\n" ++
    "Options:\n" ++
    sharedOptionLines

def helpHelp : String :=
  s!"{helpSummary}\n\n" ++
    "Usage: calc help [COMMAND]...\n\n" ++
    "Arguments:\n" ++
    "  [COMMAND]...  Print help for the subcommand(s)\n"

def HelpTopic.text : HelpTopic -> String
  | .calculator => calculatorHelp
  | .action a => a.help
  | .help => helpHelp

end Command
end Reckon
