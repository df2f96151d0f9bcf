import AutomataShell.Machine.Construction
import AutomataShell.Machine.Deterministic

/-! The description of nodes and machines in plain lines. -/

set_option autoImplicit false

namespace AutomataShell.Machine

open Text

variable (machine : Machine)

def flags (node : Char) : List Text :=
  let initial : List Text := if machine.initial = some node then ["initial"] else []
  let accepting : List Text := if machine.accepting.contains node then ["accepting"] else []
  initial ++ accepting

/-- The node with its flags in parentheses, if it has any. -/
def heading (node : Char) : Text :=
  "Node " ++ [node] ++
    match machine.flags node with
    | [] => []
    | flags => " (" ++ join ", " flags ++ ")"

def arrow (symbol : Char) (targets : Text) : Text :=
  [symbol] ++ " --> " ++ targets

/-- A deterministic machine lists its whole alphabet, with a question mark where an edge is missing;
a nondeterministic one lists the symbols that lead somewhere. -/
def arrows (node : Char) : List Text :=
  match machine.kind with
  | .deterministic =>
    machine.alphabet.map fun symbol => arrow symbol [(machine.next node symbol).getD '?']
  | .nondeterministic =>
    match machine.symbols.filter fun symbol => !(machine.targets node symbol).isEmpty with
    | [] => ["(no transitions)"]
    | symbols =>
      symbols.map fun symbol => arrow symbol (enumerated (machine.targets node symbol))

def describeNode (node : Char) : Text :=
  join "\n" (machine.heading node :: (machine.arrows node).map ('\t' :: ·))

def describeNamed (name : Label) : Except MachineError Text :=
  (machine.findNode name).map machine.describeNode

def describe : Text :=
  if machine.nodes.isEmpty then
    "There are no nodes in this automaton."
  else
    join "\n" (machine.nodes.map machine.describeNode)

end AutomataShell.Machine
