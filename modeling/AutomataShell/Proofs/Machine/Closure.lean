import Mathlib.Computability.EpsilonNFA
import AutomataShell.Proofs.Machine.Traversal

/-! The transitions of a machine as an automaton with empty moves. From nodes, moves and closures find
what this automaton does, and never meet a name of no node. -/

set_option autoImplicit false

namespace AutomataShell.Machine

variable {machine : Machine}

/-- The letter of the empty move can be read as a letter too. -/
def graph (machine : Machine) : εNFA Char Char where
  step source label := {target | machine.Leads source (label.getD emptyMove) target}
  start := {node | machine.initial = some node}
  accept := {node | node ∈ machine.accepting}

theorem mem_εClosure_iff_reachedFrom (seeds : List Char) (node : Char) :
    node ∈ machine.graph.εClosure {seed | seed ∈ seeds} ↔
      machine.ReachedFrom (seeds.map Label.ofChar) node := by
  constructor
  · intro closed
    induction closed with
    | base seed member => exact .of_mem (List.mem_map_of_mem member)
    | step source target leads _ ih => exact ih.tail leads
  · rintro ⟨seed, given, path⟩
    induction path with
    | refl => exact .base seed ((List.mem_map_of_injective Traversal.ofChar_injective).1 given)
    | tail _ leads ih => exact εNFA.εClosure.step _ _ leads ih

theorem step_of_mem {symbol node : Char} (isNode : node ∈ machine.nodes) :
    machine.step (Label.ofChar symbol) (Label.ofChar node) = .ok (machine.targets node symbol) :=
  machine.step_eq_ok_iff.2 ⟨node, (findNode_eq_ok_iff machine _ node).2 ⟨rfl, isNode⟩, rfl⟩

theorem mapM_step_of_mem {symbol : Char} {nodes : List Char}
    (areNodes : ∀ node ∈ nodes, node ∈ machine.nodes) :
    (nodes.map Label.ofChar).mapM (machine.step (Label.ofChar symbol)) =
      .ok (nodes.map fun node => machine.targets node symbol) := by
  induction nodes with
  | nil => rfl
  | cons node rest ih =>
    obtain ⟨isNode, restAreNodes⟩ := List.forall_mem_cons.1 areNodes
    rw [List.map_cons, List.mapM_cons, step_of_mem isNode, ih restAreNodes]
    rfl

namespace IsProper

theorem exists_moveFrom (proper : machine.IsProper) {frontier : List Char}
    (areNodes : ∀ node ∈ frontier, node ∈ machine.nodes) (symbol : Char) :
    ∃ reached, machine.moveFrom (frontier.map Label.ofChar) (Label.ofChar symbol) = .ok reached ∧
      ∀ node, node ∈ reached ↔ ∃ source ∈ frontier, machine.Leads source symbol node := by
  refine ⟨_, by rw [moveFrom, mapM_step_of_mem areNodes]; rfl, fun node => ?_⟩
  simp [Ascending.mem_ofList charBefore_strictOrder, proper.mem_targets_iff]

theorem exists_closureOf_nodes (proper : machine.IsProper) {seeds : List Char}
    (areNodes : ∀ seed ∈ seeds, seed ∈ machine.nodes) :
    ∃ closed, machine.closureOf (seeds.map Label.ofChar) = .ok closed ∧
      (∀ node ∈ closed, node ∈ machine.nodes) ∧
        ∀ node, node ∈ closed ↔ node ∈ machine.graph.εClosure {seed | seed ∈ seeds} := by
  have known : ∀ name ∈ seeds.map Label.ofChar, machine.hasNode name = true := by
    intro name given
    obtain ⟨seed, isSeed, rfl⟩ := List.mem_map.1 given
    exact (machine.hasNode_eq_true_iff _).2 ⟨seed, areNodes seed isSeed, rfl⟩
  obtain ⟨closed, found, mem_iff⟩ := proper.exists_closureOf known
  refine ⟨closed, found, fun node member => ?_, fun node => ?_⟩
  · obtain ⟨other, isNode, same⟩ := (machine.hasNode_eq_true_iff _).1
      (proper.hasNode_of_reachedFrom known ((mem_iff node).1 member))
    rwa [Traversal.ofChar_injective same]
  · rw [mem_iff, mem_εClosure_iff_reachedFrom]

end IsProper

end AutomataShell.Machine
