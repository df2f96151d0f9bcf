import AutomataShell.Proofs.Machine.Soundness

/-! The lists of a machine that was built step by step are in order, so the machine is determined by
what is in them. -/

set_option autoImplicit false

namespace AutomataShell.Machine

structure IsOrdered (machine : Machine) : Prop where
  nodes : Ascending.IsAscending charBefore machine.nodes
  accepting : Ascending.IsAscending charBefore machine.accepting
  edges : Ascending.IsAscending Edge.before machine.edges

variable {machine : Machine}

namespace IsOrdered

theorem insertEdge (ordered : machine.IsOrdered) (edge : Edge) : (machine.insertEdge edge).IsOrdered where
  nodes := ordered.nodes
  accepting := ordered.accepting
  edges := by
    apply Ascending.isAscending_insert Edge.before_strictOrder
    split
    · exact List.Pairwise.filter _ ordered.edges
    · exact ordered.edges

theorem attempt (ordered : machine.IsOrdered) {next : Machine} {step : BuildStep}
    (done : machine.attempt step = .ok next) : next.IsOrdered := by
  have inserted (c : Char) {list : List Char} (ascending : Ascending.IsAscending charBefore list) :
      Ascending.IsAscending charBefore (Ascending.insert charBefore c list) :=
    Ascending.isAscending_insert charBefore_strictOrder c ascending
  rcases attempt_cases done with
    ⟨c, accepting, _, _, _, rfl⟩ | ⟨edge, _, _, _, _, rfl⟩ | ⟨c, _, _, rfl⟩
  · cases accepting with
    | false => exact ⟨inserted c ordered.nodes, ordered.accepting, ordered.edges⟩
    | true => exact ⟨inserted c ordered.nodes, inserted c ordered.accepting, ordered.edges⟩
  · exact ordered.insertEdge edge
  · exact ⟨ordered.nodes, inserted c ordered.accepting, ordered.edges⟩

theorem build (ordered : machine.IsOrdered) (steps : List BuildStep) :
    (machine.build steps).IsOrdered :=
  build_keeps (fun kept done => kept.attempt done) steps ordered

end IsOrdered

theorem isOrdered_of_create {kind : Kind} {alphabet : Option (List Label)}
    (created : create kind alphabet = .ok machine) : machine.IsOrdered := by
  obtain ⟨symbols, rfl, _⟩ := create_cases created
  constructor <;> simp [empty, Ascending.IsAscending]

theorem alphabet_build (machine : Machine) (steps : List BuildStep) :
    (machine.build steps).alphabet = machine.alphabet :=
  build_keeps (P := fun built => built.alphabet = machine.alphabet)
    (fun same done => (alphabet_attempt done).trans same) steps rfl

theorem IsOrdered.edges_nodup (ordered : machine.IsOrdered) : machine.edges.Nodup := by
  refine ordered.edges.imp fun {first second} less same => ?_
  rw [same, Edge.before_strictOrder.irrefl] at less
  cases less

/-- Each target is listed once. -/
theorem IsOrdered.targets_nodup (ordered : machine.IsOrdered) (source symbol : Char) :
    (machine.targets source symbol).Nodup := by
  unfold targets edgesFrom
  refine List.Nodup.map_on ?_ ((ordered.edges_nodup.filter _).filter _)
  rintro ⟨s, a, t⟩ inFirst ⟨s', a', t'⟩ inSecond sameTarget
  simp only [List.mem_filter, beq_iff_eq] at inFirst inSecond sameTarget
  obtain ⟨⟨_, rfl⟩, rfl⟩ := inFirst
  obtain ⟨⟨_, rfl⟩, rfl⟩ := inSecond
  rw [sameTarget]

/-- Machines of the same kind over the same alphabet are equal if the same holds in their graphs. -/
theorem IsOrdered.ext {first second : Machine} (orderedFirst : first.IsOrdered)
    (orderedSecond : second.IsOrdered) (kind : first.kind = second.kind)
    (alphabet : first.alphabet = second.alphabet) (initial : first.initial = second.initial)
    (nodes : ∀ c, c ∈ first.nodes ↔ c ∈ second.nodes)
    (accepting : ∀ c, c ∈ first.accepting ↔ c ∈ second.accepting)
    (edges : ∀ edge, edge ∈ first.edges ↔ edge ∈ second.edges) : first = second := by
  have sameNodes : first.nodes = second.nodes :=
    Ascending.eq_of_isAscending charBefore_strictOrder orderedFirst.nodes orderedSecond.nodes nodes
  have sameAccepting : first.accepting = second.accepting :=
    Ascending.eq_of_isAscending charBefore_strictOrder orderedFirst.accepting
      orderedSecond.accepting accepting
  have sameEdges : first.edges = second.edges :=
    Ascending.eq_of_isAscending Edge.before_strictOrder orderedFirst.edges orderedSecond.edges edges
  cases first
  cases second
  simp_all

end AutomataShell.Machine
