import AutomataShell.Machine.Error

/-! Deterministic machines: completeness, and the walk that a word takes. -/

set_option autoImplicit false

namespace AutomataShell.Machine

variable (machine : Machine)

/-- The one node that the symbol leads to. -/
def next (source symbol : Char) : Option Char :=
  (machine.targets source symbol).head?

/-- The nodes and symbols without an edge, by node and then in the order of the alphabet. -/
def missing : List (Char × Char) :=
  machine.nodes.flatMap fun node =>
    (machine.alphabet.filter fun symbol => (machine.next node symbol).isNone).map fun symbol =>
      (node, symbol)

def isComplete : Bool :=
  machine.missing.isEmpty

/-- The node where a walk over the word ends, or the first letter without a way on. -/
def walk : Char → Text → Except Char Char
  | node, [] => .ok node
  | node, letter :: rest =>
    match machine.next node letter with
    | none => .error letter
    | some target => walk target rest

/-- Empty moves in the word are dropped. Only a complete machine with an accepting node answers. -/
def acceptsDeterministic (word : Text) : Except MachineError Bool :=
  match machine.initial with
  | none => .error .noNodes
  | some start =>
    -- A gap is reported even where the word would not come across it.
    if !machine.isComplete then
      .error (.incomplete machine.missing)
    else if machine.accepting.isEmpty then
      .error .noAccepting
    else
      match machine.walk start (word.filter (· ≠ emptyMove)) with
      | .error letter => .error (.foreignLetter .deterministic (Label.ofChar letter) machine.alphabet)
      | .ok final => .ok (machine.accepting.contains final)

theorem mem_missing (node symbol : Char) :
    (node, symbol) ∈ machine.missing ↔
      node ∈ machine.nodes ∧ symbol ∈ machine.alphabet ∧ machine.targets node symbol = [] := by
  simp [missing, next, List.head?_eq_none_iff]

end AutomataShell.Machine
