import AutomataShell.Text.Basic

/-! The verbs of the command language, their keywords, and what each needs. -/

set_option autoImplicit false

namespace AutomataShell

open Text

inductive Verb where
  | accept
  | add
  | connect
  | create
  | execute
  | exit
  | exportFile
  | help
  | importFile
  | display
  deriving DecidableEq, Repr

namespace Verb

def name : Verb → Text
  | .accept => "accept"
  | .add => "add"
  | .connect => "connect"
  | .create => "create"
  | .execute => "execute"
  | .exit => "exit"
  | .exportFile => "export"
  | .help => "help"
  | .importFile => "import"
  | .display => "show"

/-- Every keyword with its verb, in ascending order. -/
def keywords : List (Text × Verb) :=
  [("accept", .accept), ("add", .add), ("connect", .connect), ("create", .create),
    ("create_new", .create), ("execute", .execute), ("exit", .exit), ("export", .exportFile),
    ("help", .help), ("import", .importFile), ("node_accept", .accept), ("show", .display)]

/-- The verb of a keyword in lower case. -/
def ofKeyword (word : Text) : Option Verb :=
  keywords.lookup word

/-- Whether a replay of the session repeats the command. -/
def isReplayed : Verb → Bool
  | .create | .add | .connect | .accept | .execute => true
  | .exit | .exportFile | .help | .importFile | .display => false

def needsMachine : Verb → Bool
  | .add | .connect | .accept | .execute | .display => true
  | .create | .exit | .exportFile | .help | .importFile => false

/-- Whether the argument is a file name, which is never taken apart. -/
def takesPath : Verb → Bool
  | .exportFile | .importFile => true
  | _ => false

def usage : Verb → Text
  | .accept =>
    "accept <node_name>,<node_name>,...\n" ++
    "Turns all the provided nodes into accept-states."
  | .add =>
    "add <node_name>,<node_name>,...\n" ++
    "Creates new nodes with the selected names and adds them to the automaton.\n" ++
    "The first node ever added is the initial node."
  | .connect =>
    "connect <node_name> to <letter>:<target_name>, <letter>:<target_name>, ...\n" ++
    "connect <node_name> -> <letter>:<target_name>, <letter>:<target_name>, ...\n" ++
    "Connects the node to each target through the given letter.\n" ++
    "For example 'connect x to a:y,b:x' means x --(a)--> y and x --(b)--> x.\n" ++
    "Use the letter 'e' for an empty move in an NFA."
  | .create =>
    "create <type> <letter>,<letter>,...\n" ++
    "Creates a new automaton of the given type (dfa, nfa) " ++
    "with the alphabet \x7ba,b,c,...\x7d.\n" ++
    "This needs to be the FIRST command in order to run the other commands."
  | .execute =>
    "execute <word>\n" ++
    "Tells whether or not the word is accepted by the automaton.\n" ++
    "A DFA accepts a word if the node reached by its last letter is an accept-state.\n" ++
    "Note: an NFA accepts a word if any accept-state is reached while reading it, " ++
    "not only after its last letter."
  | .exit =>
    "exit\n" ++
    "The final command for the interpreter. No more commands will be accepted after this call."
  | .exportFile =>
    "export <file_name>\n" ++
    "Writes all the successfully executed commands to a file which can be imported later " ++
    "to rebuild the automaton."
  | .help => "help <command_name>\nDisplays a basic description of the given command."
  | .importFile =>
    "import <file_name>\n" ++
    "Discards the current automaton, then opens the file and executes its commands one by one."
  | .display =>
    "show <node_name>,<node_name>,...\n" ++
    "show all\n" ++
    "Shows information about each of the provided / all of the nodes."

theorem ofKeyword_name (verb : Verb) : ofKeyword verb.name = some verb := by
  cases verb <;> decide

end Verb

/-- The list of keywords that help shows. -/
def keywordHelp : Text :=
  join "\n" (("Type 'help <command>' for how to use each command" : Text) :: "Command list:" ::
    Verb.keywords.map fun entry => ">" ++ entry.1)

/-- Words with a meaning of their own inside a command. -/
def reservedWords : List Text :=
  ["all", "->", "to", ":", "dfa", "nfa"]

/-- The greeting of an interactive session. -/
def banner : Text :=
  "Type 'exit' to terminate the interpreter, or type 'help' for a list of commands.\n" ++
  "Note: All commands are NOT case-sensitive."

end AutomataShell
