import AutomataShell.Proofs.Machine.Growth

/-! The graph of a machine, as its transitions list it. -/

set_option autoImplicit false

namespace AutomataShell.Machine

/-- Whether the transitions list a target for a node and a symbol. -/
def Leads (machine : Machine) (source symbol target : Char) : Prop :=
  ∃ rows, (source, rows) ∈ machine.transitions ∧
    ∃ targets, (symbol, targets) ∈ rows ∧ target ∈ targets

theorem mem_symbolsFrom (machine : Machine) (source symbol : Char) :
    symbol ∈ machine.symbolsFrom source ↔ ∃ target, ⟨source, symbol, target⟩ ∈ machine.edges := by
  simp only [symbolsFrom, Ascending.mem_ofList charBefore_strictOrder, edgesFrom, List.mem_map,
    List.mem_filter, beq_iff_eq]
  constructor
  · rintro ⟨edge, ⟨member, rfl⟩, rfl⟩
    exact ⟨edge.target, member⟩
  · rintro ⟨target, member⟩
    exact ⟨⟨source, symbol, target⟩, ⟨member, rfl⟩, rfl⟩

theorem leads_iff (machine : Machine) (source symbol target : Char) :
    machine.Leads source symbol target ↔
      source ∈ machine.nodes ∧ ⟨source, symbol, target⟩ ∈ machine.edges := by
  constructor
  · rintro ⟨rows, inTransitions, targets, inRows, inTargets⟩
    obtain ⟨node, isNode, sameRow⟩ := List.mem_map.1 inTransitions
    cases sameRow
    obtain ⟨label, _, sameEntry⟩ := List.mem_map.1 inRows
    cases sameEntry
    exact ⟨isNode, (mem_targets machine source symbol target).1 inTargets⟩
  · rintro ⟨isNode, member⟩
    exact ⟨_, List.mem_map.2 ⟨source, isNode, rfl⟩, _,
      List.mem_map.2 ⟨symbol, (mem_symbolsFrom machine source symbol).2 ⟨target, member⟩, rfl⟩,
      (mem_targets machine source symbol target).2 member⟩

namespace IsProper

variable {machine : Machine}

theorem leads_iff_mem_edges (proper : machine.IsProper) (source symbol target : Char) :
    machine.Leads source symbol target ↔ ⟨source, symbol, target⟩ ∈ machine.edges := by
  rw [leads_iff, and_iff_right_iff_imp]
  exact fun member => (proper.edges_mem _ member).1

theorem leads_unique (proper : machine.IsProper) (isDeterministic : machine.kind = .deterministic)
    {source symbol first second : Char} (leadsFirst : machine.Leads source symbol first)
    (leadsSecond : machine.Leads source symbol second) : first = second :=
  proper.single isDeterministic _ ((proper.leads_iff_mem_edges _ _ _).1 leadsFirst) _
    ((proper.leads_iff_mem_edges _ _ _).1 leadsSecond) rfl rfl

end IsProper

end AutomataShell.Machine
