import AutomataShell.Proofs.Machine.Sweeping

/-! What later steps do to the words of a nondeterministic machine. They only ever add to its graph, so
whatever a frontier of the sweep holds, it holds in the larger machine too. -/

set_option autoImplicit false

namespace AutomataShell.Machine

variable {smaller larger : Machine}

/-- A machine that keeps its initial node when accepting nodes and edges are added to it. -/
structure IsPartOf (smaller larger : Machine) : Prop where
  initial : ∀ start, smaller.initial = some start → larger.initial = some start
  nodes : ∀ node ∈ smaller.nodes, node ∈ larger.nodes
  accepting : ∀ node ∈ smaller.accepting, node ∈ larger.accepting
  edges : ∀ edge ∈ smaller.edges, edge ∈ larger.edges

namespace IsPartOf

theorem refl (machine : Machine) : machine.IsPartOf machine :=
  ⟨fun _ => id, fun _ => id, fun _ => id, fun _ => id⟩

theorem trans {middle : Machine} (first : smaller.IsPartOf middle) (second : middle.IsPartOf larger) :
    smaller.IsPartOf larger where
  initial start starts := second.initial start (first.initial start starts)
  nodes node member := second.nodes node (first.nodes node member)
  accepting node member := second.accepting node (first.accepting node member)
  edges edge member := second.edges edge (first.edges edge member)

theorem leads (part : smaller.IsPartOf larger) {source symbol target : Char}
    (leads : smaller.Leads source symbol target) : larger.Leads source symbol target := by
  rw [leads_iff] at leads ⊢
  exact ⟨part.nodes source leads.1, part.edges _ leads.2⟩

variable {few many : Set Char}

theorem εClosure_mono (part : smaller.IsPartOf larger) (within : few ⊆ many) :
    smaller.graph.εClosure few ⊆ larger.graph.εClosure many := by
  intro node reached
  induction reached with
  | base node member => exact .base node (within member)
  | step source target leads _ ih => exact εNFA.εClosure.step source target (part.leads leads) ih

theorem stepSet_mono (part : smaller.IsPartOf larger) (within : few ⊆ many) (letter : Char) :
    smaller.graph.stepSet few letter ⊆ larger.graph.stepSet many letter := by
  intro node reached
  rw [εNFA.mem_stepSet_iff] at reached ⊢
  obtain ⟨source, member, closed⟩ := reached
  have moved : smaller.graph.step source (some letter) ⊆ larger.graph.step source (some letter) :=
    fun target leads => part.leads leads
  exact ⟨source, within member, part.εClosure_mono moved closed⟩

theorem foldl_stepSet_mono (part : smaller.IsPartOf larger) (within : few ⊆ many) (word : Text) :
    word.foldl smaller.graph.stepSet few ⊆ word.foldl larger.graph.stepSet many := by
  induction word generalizing few many with
  | nil => exact within
  | cons letter rest ih => exact ih (part.stepSet_mono within letter)

theorem touches_mono (part : smaller.IsPartOf larger) (within : few ⊆ many) {word : Text}
    (touched : smaller.Touches few word) : larger.Touches many word := by
  obtain ⟨letters, rest, split, some, node, reached, accepting⟩ := touched
  exact ⟨letters, rest, split, some, node, part.foldl_stepSet_mono within letters reached,
    part.accepting node accepting⟩

theorem insertNode (machine : Machine) (name : Char) : machine.IsPartOf (machine.insertNode name) where
  initial start starts := by simp [Machine.insertNode, starts]
  nodes node member := (mem_nodes_insertNode machine name node).2 (Or.inr member)
  accepting _ := id
  edges _ := id

theorem insertAccepting (machine : Machine) (name : Char) :
    machine.IsPartOf (machine.insertAccepting name) where
  initial _ := id
  nodes _ := id
  accepting node member := (mem_accepting_insertAccepting machine name node).2 (Or.inr member)
  edges _ := id

/-- Where a node may have several edges for a symbol, none is given up for another one. -/
theorem insertEdge {machine : Machine} (isNondeterministic : machine.kind = .nondeterministic)
    (edge : Edge) : machine.IsPartOf (machine.insertEdge edge) where
  initial _ := id
  nodes _ := id
  accepting _ := id
  edges old member := by
    rw [mem_edges_insertEdge, isNondeterministic]
    exact Or.inr ⟨member, by simp⟩

theorem attempt {machine next : Machine} {step : BuildStep}
    (isNondeterministic : machine.kind = .nondeterministic)
    (done : machine.attempt step = .ok next) : machine.IsPartOf next := by
  rcases attempt_cases done with
    ⟨c, accepting, _, _, _, rfl⟩ | ⟨edge, _, _, _, _, rfl⟩ | ⟨c, _, _, rfl⟩
  · split
    · exact (insertNode machine c).trans (insertAccepting _ c)
    · exact insertNode machine c
  · exact insertEdge isNondeterministic edge
  · exact insertAccepting machine c

/-- Whatever further steps are tried on a nondeterministic machine, it stays part of what they make. -/
theorem build {machine : Machine} (isNondeterministic : machine.kind = .nondeterministic)
    (steps : List BuildStep) : machine.IsPartOf (machine.build steps) := by
  have kept : (machine.build steps).kind = .nondeterministic ∧
      machine.IsPartOf (machine.build steps) :=
    build_keeps (P := fun built => built.kind = .nondeterministic ∧ machine.IsPartOf built)
      (fun {built next step} holds done =>
        ⟨(kind_attempt done).trans holds.1, holds.2.trans (attempt holds.1 done)⟩)
      steps ⟨isNondeterministic, refl machine⟩
  exact kept.2

end IsPartOf

/-- A nondeterministic machine accepts what its graph touches an accepting node with and can read to
the end. -/
theorem IsProper.accepts_eq_ok_true_iff {machine : Machine} (proper : machine.IsProper)
    (isNondeterministic : machine.kind = .nondeterministic) (word : Text) :
    machine.accepts word = .ok true ↔ ∃ start, machine.initial = some start ∧
      (word.foldl machine.graph.stepSet (machine.graph.εClosure {start})).Nonempty ∧
        machine.Touches (machine.graph.εClosure {start}) word := by
  cases starts : machine.initial with
  | none => simp [accepts, isNondeterministic, acceptsNondeterministic, starts]
  | some start =>
    obtain ⟨accepted, answered, verdict⟩ := proper.exists_accepted isNondeterministic starts word
    simp [answered, verdict]

/-- A word that a nondeterministic machine accepts stays accepted, whatever steps follow. -/
theorem accepts_build_of_accepts {alphabet : Option (List Label)} {fresh : Machine}
    (created : create .nondeterministic alphabet = .ok fresh) (steps later : List BuildStep)
    {word : Text} (accepted : (fresh.build steps).accepts word = .ok true) :
    ((fresh.build steps).build later).accepts word = .ok true := by
  have proper : (fresh.build steps).IsProper := (isProper_of_create created).build steps
  have isNondeterministic : (fresh.build steps).kind = .nondeterministic :=
    (kind_build fresh steps).trans (kind_of_create created)
  have part := IsPartOf.build isNondeterministic later
  obtain ⟨start, starts, ⟨final, reached⟩, touched⟩ :=
    (proper.accepts_eq_ok_true_iff isNondeterministic word).1 accepted
  have within := part.εClosure_mono (Set.Subset.refl {start})
  refine ((proper.build later).accepts_eq_ok_true_iff
    ((kind_build _ later).trans isNondeterministic) word).2 ⟨start, part.initial start starts, ?_, ?_⟩
  · exact ⟨final, part.foldl_stepSet_mono within word reached⟩
  · exact part.touches_mono within touched

/-- A word that reaches an accepting node at its first letter, and can be read to its end. -/
def stepsToReach : List BuildStep :=
  [.node (Label.ofChar 'x') false, .node (Label.ofChar 'y') true,
    .edge (Label.ofChar 'x') (Label.ofChar 'a') (Label.ofChar 'y'),
    .edge (Label.ofChar 'y') (Label.ofChar 'b') (Label.ofChar 'x')]

/-- A dead end beside the accepting node, and ways by empty moves from each node to the others. -/
def stepsAside : List BuildStep :=
  [.node (Label.ofChar 'z') false,
    .edge (Label.ofChar 'x') (Label.ofChar 'a') (Label.ofChar 'z'),
    .edge (Label.ofChar 'x') (Label.ofChar 'e') (Label.ofChar 'z'),
    .edge (Label.ofChar 'y') (Label.ofChar 'e') (Label.ofChar 'x'),
    .accept (Label.ofChar 'z')]

theorem accepts_stepsAside :
    let machine := (empty .nondeterministic ['a', 'b']).build stepsToReach
    create .nondeterministic (some [Label.ofChar 'a', Label.ofChar 'b']) =
        .ok (empty .nondeterministic ['a', 'b']) ∧
      machine.accepts ['a', 'b'] = .ok true ∧
      (machine.build stepsAside).accepts ['a', 'b'] = .ok true := by
  intro machine
  have created : create .nondeterministic (some [Label.ofChar 'a', Label.ofChar 'b']) =
      .ok (empty .nondeterministic ['a', 'b']) := by
    decide
  have accepted : machine.accepts ['a', 'b'] = .ok true := by
    decide +kernel
  exact ⟨created, accepted, accepts_build_of_accepts created stepsToReach stepsAside accepted⟩

end AutomataShell.Machine
