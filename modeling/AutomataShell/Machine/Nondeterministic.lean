import AutomataShell.Machine.Traversal

/-! Nondeterministic machines: the closure under empty moves by a traversal that follows each node
once, and the sweep of a word over sets of nodes. Whatever names a node is looked up before its edges
are followed, and a name of no node is refused there. -/

set_option autoImplicit false

namespace AutomataShell.Machine

variable (machine : Machine)

/-- The nodes that a symbol leads to; one that no edge can carry leads nowhere. -/
def targetsAlong (symbol : Label) (node : Char) : List Char :=
  match symbol with
  | some [c] => machine.targets node c
  | _ => []

/-- The nodes that the symbol leads to from the named one. -/
def step (symbol name : Label) : Except MachineError (List Char) :=
  (machine.findNode name).map (machine.targetsAlong symbol)

/-- The nodes that the symbol leads to from the named ones, in ascending order. -/
def moveFrom (names : List Label) (symbol : Label) : Except MachineError (List Char) :=
  (names.mapM (machine.step symbol)).map fun reached => Ascending.ofList charBefore reached.flatten

theorem step_eq_error_iff {symbol name : Label} {why : MachineError} :
    machine.step symbol name = .error why ↔ machine.findNode name = .error why := by
  unfold step
  cases machine.findNode name <;> simp [Except.map]

theorem step_eq_ok_iff {symbol : Char} {name : Label} {nodes : List Char} :
    machine.step (Label.ofChar symbol) name = .ok nodes ↔
      ∃ node, machine.findNode name = .ok node ∧ machine.targets node symbol = nodes := by
  unfold step
  cases machine.findNode name <;> simp [Except.map, targetsAlong, Label.ofChar]

theorem exists_edge_of_step {symbol name : Label} {nodes : List Char}
    (stepped : machine.step symbol name = .ok nodes) :
    ∀ node ∈ nodes, ∃ edge ∈ machine.edges, edge.target = node := by
  unfold step at stepped
  cases found : machine.findNode name with
  | error why => simp [found, Except.map] at stepped
  | ok source =>
    rw [found] at stepped
    cases stepped
    intro node member
    unfold targetsAlong at member
    split at member
    · exact ⟨_, (machine.mem_targets source _ node).1 member, rfl⟩
    · cases member

/-- The names found once no moves are left to be followed. -/
def explore : Traversal → Except MachineError (List Label)
  | ⟨found, []⟩ => .ok found
  | ⟨found, name :: rest⟩ =>
    match _stepped : machine.step (Label.ofChar emptyMove) name with
    | .error why => .error why
    | .ok nodes => explore (Traversal.enterAll ⟨found, rest⟩ nodes)
termination_by traversal => traversal.remaining machine
decreasing_by
  exact Traversal.remaining_lt_of_follow machine found rest name (machine.exists_edge_of_step _stepped)

/-- The nodes that empty moves reach from the named ones, these included, in ascending order. -/
def closureOf (names : List Label) : Except MachineError (List Char) :=
  match machine.explore (.start names) with
  | .error why => .error why
  -- All that is found has been looked up, so nothing is refused any more.
  | .ok found => (found.mapM machine.findNode).map (Ascending.ofList charBefore)

/-- Reads the word letter by letter. A frontier that runs empty rejects; otherwise the word is
accepted when some letter led to an accepting node. -/
def sweep : List Char → Bool → Text → Except MachineError Bool
  | _, touched, [] => .ok touched
  | frontier, touched, letter :: rest => do
    let moved ← machine.moveFrom (frontier.map Label.ofChar) (Label.ofChar letter)
    let reached ← machine.closureOf (moved.map Label.ofChar)
    -- A dead end rejects even a word that has touched an accepting node.
    if reached.isEmpty then
      return false
    else
      sweep reached (touched || reached.any fun node => machine.accepting.contains node) rest

def acceptsNondeterministic (word : Text) : Except MachineError Bool :=
  match machine.initial with
  | none => .error .noNodes
  | some start => do
    let frontier ← machine.closureOf [Label.ofChar start]
    machine.sweep frontier false word

end AutomataShell.Machine
