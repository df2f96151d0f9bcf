import AutomataShell.Command.Malformed
import AutomataShell.Disk.Error
import AutomataShell.Machine.Error
import AutomataShell.Script.Expansion

/-! Why a session refuses a command or a script, how grave that is, and how it is worded. Where an
imported script failed, the refusal carries the one that ended the script. -/

set_option autoImplicit false

namespace AutomataShell

open Text

/-- How grave a refusal is. Only imports that run in circles and closed sessions are fatal. -/
inductive Severity where
  | wording
  | execution
  | fatal
  deriving DecidableEq, Repr

namespace Severity

def name : Severity → Text
  | .wording => "syntax"
  | .execution => "execution"
  | .fatal => "fatal"

def tag : Severity → Text
  | .wording => "Syntax Error: "
  | .execution => "Execution Error: "
  | .fatal => "Fatal Error: "

end Severity

/-- A command of a script, counted from one. -/
structure Position where
  index : Nat
  line : Text
  deriving DecidableEq, Repr

def Position.shown (position : Position) : Text :=
  "\n\tat command number " ++ ofNat position.index ++ ", \"" ++ position.line ++ "\""

inductive Refusal where
  | malformed (why : Malformed)
  | noMachine
  | machine (why : MachineError)
  | file (why : FileError)
  | closed
  | importCycle (path : Text)
  | noText
  | script (why : Script.ScriptError)
  | importFailed (path : Text) (position : Option Position) (why : Refusal)
  deriving DecidableEq, Repr

namespace Refusal

/-- A failed import is fatal when the failure in its script is, and else a failed execution. -/
def severity : Refusal → Severity
  | .malformed _ | .noText | .script _ => .wording
  | .noMachine | .machine _ | .file _ => .execution
  | .closed | .importCycle _ => .fatal
  | .importFailed _ _ why => if why.severity = .fatal then .fatal else .execution

def message (refusal : Refusal) : Text :=
  refusal.severity.tag ++
    match refusal with
    | .malformed why => why.message
    | .noMachine => "No defined automaton: See 'help create'"
    | .machine why => why.message
    | .file why => why.message
    | .closed => "The interpreter can not accept commands when closed."
    | .importCycle path => path ++ " is already being imported."
    | .noText => "No text found."
    | .script why => why.message
    | .importFailed path position why =>
      "Import of " ++ path ++ " failed:\n" ++ why.message ++ (position.map Position.shown).getD []

end Refusal

end AutomataShell
