import AutomataShell.Command.Verb
import AutomataShell.Script.Directive
import AutomataShell.Script.Line
import AutomataShell.Script.Token

/-! The expansion of a script to plain commands: directives define symbols, rename tokens and open
conditional blocks. Blocks do not nest: one condition at a time is in force, and the first end of a
block closes it. -/

set_option autoImplicit false

namespace AutomataShell.Script

open Text

/-- What a directive gives a meaning to. -/
inductive Definition where
  | flag (name : Text)
  | renaming (old new : Text)
  deriving DecidableEq, Repr

/-- The latest replacement of a token; a token without one stands for itself. -/
def replacement : List Definition → Text → Text
  | [], token => token
  | .renaming old new :: earlier, token => if old = token then new else replacement earlier token
  | .flag _ :: earlier, token => replacement earlier token

def isDefined (definitions : List Definition) (name : Text) : Bool :=
  definitions.contains (.flag name)

/-- Why a script has no expansion. -/
inductive ScriptError where
  | operandCount (directive : Directive) (line : Text)
  | renamesKeyword (line : Text)
  | unclosedBlock
  deriving DecidableEq, Repr

def ScriptError.message : ScriptError → Text
  | .operandCount directive line =>
    "Invalid number of arguments in " ++ directive.keyword ++ "\n\tat command " ++ line
  | .renamesKeyword line => "Commands cannot be overwritten.\n\tat command " ++ line
  | .unclosedBlock => "Expected #endif before end of file as a conditional block is open."

/-- An expansion under way. The latest definition and the latest command come first. -/
structure Expansion where
  definitions : List Definition
  suppressed : Bool
  blockOpen : Bool
  commands : List Text

namespace Expansion

def start : Expansion :=
  ⟨[], false, false, []⟩

def keywordTakesPath (keyword : Text) : Bool :=
  (Verb.ofKeyword (lower keyword)).any Verb.takesPath

/-- The command that a line stands for. A file name keeps its spelling; any other line is rebuilt
from its tokens, each replaced once. -/
def command (definitions : List Definition) (line : Text) : Text :=
  let keyword := line.takeWhile (· ≠ ' ')
  if keywordTakesPath keyword then
    trimEnd (keyword ++ " " ++ trim (line.dropWhile (· ≠ ' ')))
  else
    join " " ((tokens line).map (replacement definitions))

def emit (line : Text) (state : Expansion) : Expansion :=
  { state with commands := command state.definitions line :: state.commands }

def define (definition : Definition) (state : Expansion) : Expansion :=
  { state with definitions := definition :: state.definitions }

def openBlock (suppressed : Bool) (state : Expansion) : Expansion :=
  { state with blockOpen := true, suppressed }

def closeBlock (state : Expansion) : Expansion :=
  { state with blockOpen := false, suppressed := false }

/-- Carries out a directive that is in force. -/
def obey (directive : Directive) (operands : List Text) (line : Text) (state : Expansion) :
    Except ScriptError Expansion :=
  match directive, operands with
  | .rename, [old, new] =>
    if (Verb.ofKeyword (lower old)).isSome then
      .error (.renamesKeyword line)
    else
      .ok (state.define (.renaming old new))
  | .define, [name] => .ok (state.define (.flag name))
  | .ifDefined, [name] => .ok (state.openBlock (!isDefined state.definitions name))
  | .ifUndefined, [name] => .ok (state.openBlock (isDefined state.definitions name))
  | .endBlock, [] => .ok state.closeBlock
  | directive, _ => .error (.operandCount directive line)

/-- One line. In a suppressed block only the end of the block counts. -/
def step (line : Text) (state : Expansion) : Except ScriptError Expansion :=
  let first := (words line).headD []
  match Directive.ofKeyword (lower first) with
  | none => .ok (if state.suppressed then state else state.emit line)
  | some directive =>
    -- A suppressed directive is not even checked.
    if state.suppressed && directive ≠ .endBlock then
      .ok state
    else
      state.obey directive (words line).tail line

/-- All lines up to the first failure, which is told beside the state that it left. -/
def run : List Text → Expansion → Expansion × Option ScriptError
  | [], state => (state, if state.blockOpen then some .unclosedBlock else none)
  | line :: rest, state =>
    match state.step line with
    | .ok next => run rest next
    | .error why => (state, some why)

/-- What the directives defined, the earliest first. -/
def definitionsInOrder (state : Expansion) : List Definition :=
  state.definitions.reverse

def commandsInOrder (state : Expansion) : List Text :=
  state.commands.reverse

end Expansion

def expansion (script : Text) : Expansion × Option ScriptError :=
  Expansion.start.run (logicalLines script)

/-- The plain commands of a script. -/
def expand (script : Text) : Except ScriptError (List Text) :=
  match expansion script with
  | (state, none) => .ok state.commandsInOrder
  | (_, some why) => .error why

/-- The expanded script as text, one command a line. -/
def preprocess (script : Text) : Except ScriptError Text :=
  (expand script).map written

end AutomataShell.Script
