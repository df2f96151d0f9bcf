import AutomataShell.Session.Journal

/-! The options of the command line: switches that stand alone, and settings that take a value. -/

set_option autoImplicit false

namespace AutomataShell

open Text

inductive Switch where
  | help
  | check
  | quiet
  deriving DecidableEq, Repr

inductive Setting where
  | command
  | exportPath
  | dotPath
  | logLevel
  deriving DecidableEq, Repr

inductive OptionName where
  | switch (switch : Switch)
  | setting (setting : Setting)
  deriving DecidableEq, Repr

namespace OptionName

/-- Every spelling of an option. -/
def spellings : List (Text × OptionName) :=
  [("-h", .switch .help), ("--help", .switch .help), ("-c", .setting .command),
    ("--command", .setting .command), ("--check", .switch .check),
    ("--export", .setting .exportPath), ("--dot", .setting .dotPath), ("-q", .switch .quiet),
    ("--quiet", .switch .quiet), ("--log-level", .setting .logLevel)]

def ofSpelling (text : Text) : Option OptionName :=
  spellings.lookup text

/-- The options with a spelling that starts with the text. -/
def abbreviatedBy (text : Text) : List OptionName :=
  (spellings.filter fun entry => text.isPrefixOf entry.1).map Prod.snd

end OptionName

/-- What a command line asks for. An empty text or path counts as none. -/
structure Options where
  scripts : List Text
  check : Bool
  quiet : Bool
  command : Text
  exportPath : Text
  dotPath : Text
  logLevel : Level
  deriving DecidableEq, Repr

namespace Options

def default : Options :=
  ⟨[], false, false, [], [], [], .warning⟩

def help : Text :=
  join "\n"
    ["usage: [options] [script ...]",
      "",
      "Runs command scripts in order, or an interactive session without any.",
      "",
      "  -h, --help          show this text and exit",
      "  -c, --command TEXT  command text to run after the scripts",
      "  --check             only tell whether each script would run without errors",
      "  --export PATH       write the replayable commands once everything ran",
      "  --dot PATH          write the final automaton as a DOT file",
      "  -q, --quiet         print errors only",
      "  --log-level LEVEL   DEBUG, INFO, WARNING (default) or ERROR",
      ""]

end Options

end AutomataShell
