import AutomataShell.Machine.Deterministic
import AutomataShell.Machine.Nondeterministic

/-! Whether a machine accepts a word, by the rule of its kind. -/

set_option autoImplicit false

namespace AutomataShell.Machine

open Text

def accepts (machine : Machine) (word : Text) : Except MachineError Bool :=
  match machine.kind with
  | .deterministic => machine.acceptsDeterministic word
  | .nondeterministic => machine.acceptsNondeterministic word

def verdict (word : Text) (accepted : Bool) : Text :=
  word ++ (if accepted then " is" else " is not") ++ " an accepted word"

def answer (machine : Machine) (word : Text) : Except MachineError Text :=
  (machine.accepts word).map (verdict word)

end AutomataShell.Machine
