import AutomataShell.Disk.Path

/-! The journal: what happens during a run, in order, beside its replies. -/

set_option autoImplicit false

namespace AutomataShell

open Text

inductive Level where
  | debug
  | info
  | warning
  | error
  deriving DecidableEq, Repr

namespace Level

/-- All levels from the least to the most urgent. -/
def all : List Level :=
  [.debug, .info, .warning, .error]

def name : Level → Text
  | .debug => "DEBUG"
  | .info => "INFO"
  | .warning => "WARNING"
  | .error => "ERROR"

def ofName (name : Text) : Option Level :=
  all.find? fun level => level.name == name

def rank : Level → Nat
  | .debug => 0
  | .info => 1
  | .warning => 2
  | .error => 3

theorem ofName_name (level : Level) : ofName level.name = some level := by
  cases level <;> decide

end Level

inductive Event where
  | renamed (old new : Text)
  | defined (name : Text)
  | dispatched (line : Text)
  | failed (line message : Text)
  | importing (place : Place)
  | exported (count : Nat) (path : Text)
  | running (name : Text)
  | skipped (name : Text)
  deriving DecidableEq, Repr

namespace Event

def level : Event → Level
  | .renamed _ _ | .defined _ | .dispatched _ => .debug
  | .importing _ | .exported _ _ | .running _ | .skipped _ => .info
  | .failed _ _ => .warning

/-- The part of the program that tells of the event. -/
def channel : Event → Text
  | .renamed _ _ | .defined _ => "automaton_studio.preprocessor"
  | .dispatched _ | .failed _ _ | .importing _ | .exported _ _ => "automaton_studio.interpreter"
  | .running _ | .skipped _ => "automaton_studio.cli"

def message : Event → Text
  | .renamed old new => "Macro " ++ quoted old ++ " -> " ++ quoted new
  | .defined name => "Symbol " ++ quoted name ++ " defined"
  | .dispatched line => "Dispatching " ++ quoted line
  | .failed line message => "Command " ++ quoted line ++ " failed: " ++ message
  | .importing place => "Importing " ++ place.shown
  | .exported count path => "Exported " ++ ofNat count ++ " command(s) to " ++ path
  | .running name => "Running " ++ name
  | .skipped name => "Interpreter closed, skipping " ++ name

def shown (event : Event) : Text :=
  event.level.name ++ " " ++ event.channel ++ ": " ++ event.message

/-- Whether an event is told when all below a level is left out. -/
def reaches (event : Event) (threshold : Level) : Bool :=
  threshold.rank ≤ event.level.rank

end Event

end AutomataShell
