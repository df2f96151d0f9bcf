import AutomataShell.Machine.Acceptance

/-! What a command says when it succeeds. -/

set_option autoImplicit false

namespace AutomataShell

open Text

inductive Reply where
  | created
  | added (names : List Char)
  | connected
  | accepted (names : List Char)
  | judged (word : Text) (verdict : Bool)
  | described (description : Text)
  | helped (help : Text)
  | exported
  | imported
  | closing
  deriving DecidableEq, Repr

def Reply.message : Reply → Text
  | .created => "Successfully initialized the automaton"
  | .added names => "Created node(s) " ++ enumerated names
  | .connected => "Nodes successfully connected"
  | .accepted [name] => "Node " ++ [name] ++ " is now an accept-state."
  | .accepted names => "Nodes " ++ enumerated names ++ " are now accept-states."
  | .judged word verdict => Machine.verdict word verdict
  | .described text => text
  | .helped text => text
  | .exported => "Export successful!"
  | .imported => "File execution successful"
  | .closing => "Closing interpreter..."

end AutomataShell
