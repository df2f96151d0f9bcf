import Mathlib.Data.List.Nodup
import Mathlib.Logic.ExistsUnique
import AutomataShell.Machine.Deterministic
import AutomataShell.Proofs.Machine.Graph

/-! What holds of every machine that was built step by step: its nodes are legal and distinct, the
first of them stays the initial one, and all that it names is there. -/

set_option autoImplicit false

namespace AutomataShell.Machine

/-- A target, or none, for each symbol of the alphabet, which together are the transitions of a
node. -/
structure FillsSlots (machine : Machine) (node : Char) (slots : List (Option Char)) : Prop where
  length_eq : slots.length = machine.alphabet.length
  leads_iff : ∀ symbol target,
    machine.Leads node symbol target ↔ (symbol, some target) ∈ machine.alphabet.zip slots

/-- What a machine represents is well-formed. -/
structure IsSound (machine : Machine) : Prop where
  distinct : machine.nodes.Nodup
  legal : ∀ node ∈ machine.nodes, Label.IsLegal node
  initial_eq_none_iff : machine.initial = none ↔ machine.nodes = []
  initial_mem : ∀ start, machine.initial = some start → start ∈ machine.nodes
  accepting_mem : ∀ node ∈ machine.accepting, node ∈ machine.nodes
  ends_mem : ∀ edge ∈ machine.edges, edge.source ∈ machine.nodes ∧ edge.target ∈ machine.nodes
  symbol_mem : ∀ edge ∈ machine.edges, edge.symbol ∈ machine.alphabet ∨
    machine.kind = .nondeterministic ∧ edge.symbol = emptyMove
  moveless : machine.kind = .deterministic → ∀ edge ∈ machine.edges, edge.symbol ≠ emptyMove
  slots : machine.kind = .deterministic → ∀ node ∈ machine.nodes,
    (∃! slots, machine.FillsSlots node slots) ∧
      ∀ symbol first second, machine.Leads node symbol first → machine.Leads node symbol second →
        first = second

/-- The invariant of building: a proper machine whose names are legal. -/
structure IsLawful (machine : Machine) : Prop extends IsProper machine where
  legal : ∀ node ∈ machine.nodes, Label.IsLegal node
  unmoving : machine.kind = .deterministic → emptyMove ∉ machine.alphabet

theorem IsProper.nodes_nodup {machine : Machine} (proper : machine.IsProper) :
    machine.nodes.Nodup := by
  refine proper.ascending.imp fun {first second} less same => ?_
  rw [same, charBefore_strictOrder.irrefl] at less
  cases less

theorem alphabet_attempt {machine next : Machine} {step : BuildStep}
    (done : machine.attempt step = .ok next) : next.alphabet = machine.alphabet := by
  rcases attempt_cases done with
    ⟨_, accepting, _, _, _, rfl⟩ | ⟨_, _, _, _, _, rfl⟩ | ⟨_, _, _, rfl⟩
  · split <;> rfl
  · rfl
  · rfl

namespace IsLawful

variable {machine : Machine}

theorem attempt (lawful : machine.IsLawful) {next : Machine} {step : BuildStep}
    (done : machine.attempt step = .ok next) : next.IsLawful where
  toIsProper := lawful.toIsProper.attempt done
  legal node member := by
    rcases attempt_cases done with
      ⟨c, accepting, _, legal, _, rfl⟩ | ⟨_, _, _, _, _, rfl⟩ | ⟨_, _, _, rfl⟩
    · have inNodes : node ∈ (machine.insertNode c).nodes := by
        split at member <;> exact member
      rcases (mem_nodes_insertNode machine c node).1 inNodes with rfl | old
      · exact legal
      · exact lawful.legal node old
    · exact lawful.legal node member
    · exact lawful.legal node member
  unmoving isDeterministic := by
    rw [alphabet_attempt done]
    exact lawful.unmoving (kind_attempt done ▸ isDeterministic)

theorem build (lawful : machine.IsLawful) (steps : List BuildStep) :
    (machine.build steps).IsLawful :=
  build_keeps (fun kept done => kept.attempt done) steps lawful

theorem edges_alphabet (lawful : machine.IsLawful) {edge : Edge} (member : edge ∈ machine.edges) :
    edge.symbol ∈ machine.alphabet ∨ machine.kind = .nondeterministic ∧ edge.symbol = emptyMove := by
  have allowed := (lawful.edges_mem edge member).2.1
  unfold symbols at allowed
  split at allowed
  · exact Or.inl allowed
  · rename_i isNondeterministic
    split at allowed
    · exact Or.inl allowed
    · rcases List.mem_append.1 allowed with inAlphabet | isMove
      · exact Or.inl inAlphabet
      · exact Or.inr ⟨isNondeterministic, List.mem_singleton.1 isMove⟩

theorem symbol_mem_alphabet (lawful : machine.IsLawful)
    (isDeterministic : machine.kind = .deterministic) {node symbol target : Char}
    (leads : machine.Leads node symbol target) : symbol ∈ machine.alphabet := by
  rcases lawful.edges_alphabet ((leads_iff machine node symbol target).1 leads).2 with
    inAlphabet | ⟨isNondeterministic, _⟩
  · exact inAlphabet
  · rw [isDeterministic] at isNondeterministic
    cases isNondeterministic

theorem next_eq_some_iff (lawful : machine.IsLawful) (isDeterministic : machine.kind = .deterministic)
    (node symbol target : Char) :
    machine.next node symbol = some target ↔ machine.Leads node symbol target := by
  have listed (other : Char) :
      other ∈ machine.targets node symbol ↔ machine.Leads node symbol other := by
    rw [mem_targets, lawful.leads_iff_mem_edges]
  constructor
  · intro first
    exact (listed target).1 (List.mem_of_mem_head? first)
  · intro leads
    cases found : machine.targets node symbol with
    | nil =>
      have member := (listed target).2 leads
      rw [found] at member
      cases member
    | cons other rest =>
      have leadsOther := (listed other).1 (found ▸ List.mem_cons_self)
      rw [next, found, List.head?_cons, lawful.leads_unique isDeterministic leadsOther leads]

theorem fillsSlots (lawful : machine.IsLawful) (isDeterministic : machine.kind = .deterministic)
    (node : Char) : machine.FillsSlots node (machine.alphabet.map (machine.next node)) where
  length_eq := List.length_map _
  leads_iff symbol target := by
    rw [← List.map_prod_left_eq_zip, List.mem_map]
    constructor
    · intro leads
      exact ⟨symbol, lawful.symbol_mem_alphabet isDeterministic leads,
        by rw [(lawful.next_eq_some_iff isDeterministic node symbol target).2 leads]⟩
    · rintro ⟨_, _, same⟩
      obtain ⟨rfl, found⟩ := Prod.mk.inj same
      exact (lawful.next_eq_some_iff isDeterministic node _ target).1 found

end IsLawful

/-- Without repetitions in the alphabet, each slot is that of its symbol. -/
theorem FillsSlots.getElem_eq_some_iff {machine : Machine} {node : Char}
    {slots : List (Option Char)} (fills : machine.FillsSlots node slots)
    (distinct : machine.alphabet.Nodup) {i : Nat} (inAlphabet : i < machine.alphabet.length)
    (inSlots : i < slots.length) (target : Char) :
    slots[i] = some target ↔ machine.Leads node machine.alphabet[i] target := by
  rw [fills.leads_iff, List.mem_iff_getElem]
  constructor
  · intro found
    have inBoth : i < (machine.alphabet.zip slots).length := by
      rw [List.length_zip]
      exact Nat.lt_min.2 ⟨inAlphabet, inSlots⟩
    exact ⟨i, inBoth, by simp [found]⟩
  · rintro ⟨j, inZip, same⟩
    rw [List.getElem_zip, Prod.mk.injEq] at same
    obtain ⟨sameSymbol, found⟩ := same
    cases (distinct.getElem_inj_iff).1 sameSymbol
    exact found

theorem FillsSlots.unique {machine : Machine} {node : Char} {first second : List (Option Char)}
    (distinct : machine.alphabet.Nodup) (fillsFirst : machine.FillsSlots node first)
    (fillsSecond : machine.FillsSlots node second) : first = second := by
  refine List.ext_getElem (fillsFirst.length_eq.trans fillsSecond.length_eq.symm) ?_
  intro i inFirst inSecond
  have inAlphabet : i < machine.alphabet.length := fillsFirst.length_eq ▸ inFirst
  refine Option.ext fun target => ?_
  rw [fillsFirst.getElem_eq_some_iff distinct inAlphabet inFirst,
    fillsSecond.getElem_eq_some_iff distinct inAlphabet inSecond]

theorem IsLawful.isSound {machine : Machine} (lawful : machine.IsLawful) : machine.IsSound where
  distinct := lawful.nodes_nodup
  legal := lawful.legal
  initial_eq_none_iff := lawful.initial_eq_none_iff
  initial_mem := lawful.initial_mem
  accepting_mem := lawful.accepting_mem
  ends_mem edge member := by
    obtain ⟨source, _, target⟩ := lawful.edges_mem edge member
    exact ⟨source, target⟩
  symbol_mem _ member := lawful.edges_alphabet member
  moveless isDeterministic edge member isMove := by
    rcases lawful.edges_alphabet member with inAlphabet | ⟨isNondeterministic, _⟩
    · exact lawful.unmoving isDeterministic (isMove ▸ inAlphabet)
    · rw [isDeterministic] at isNondeterministic
      cases isNondeterministic
  slots isDeterministic node _ :=
    ⟨⟨_, lawful.fillsSlots isDeterministic node, fun _ fills =>
        fills.unique lawful.toIsProper.distinct (lawful.fillsSlots isDeterministic node)⟩,
      fun _ _ _ => lawful.leads_unique isDeterministic⟩

theorem isLawful_of_create {kind : Kind} {alphabet : Option (List Label)} {machine : Machine}
    (created : create kind alphabet = .ok machine) : machine.IsLawful where
  toIsProper := isProper_of_create created
  legal node member := by
    obtain ⟨symbols, rfl, _⟩ := create_cases created
    cases member
  unmoving isDeterministic := by
    obtain ⟨symbols, rfl, _, allowed⟩ := create_cases created
    exact fun isMove => allowed ⟨isDeterministic, isMove⟩

/-- The name of the node that a step adds. A step that is refused adds none. -/
def addedBy (machine : Machine) (step : BuildStep) : Option Char :=
  match step, machine.attempt step with
  | .node (some [c]) _, .ok _ => some c
  | _, _ => none

/-- The names of the nodes that steps add, in order. -/
def added : Machine → List BuildStep → List Char
  | _, [] => []
  | machine, step :: rest => (machine.addedBy step).toList ++ (machine.proceed step).added rest

theorem initial_proceed (machine : Machine) (step : BuildStep) :
    (machine.proceed step).initial = machine.initial.or (machine.addedBy step) := by
  unfold addedBy
  cases done : machine.attempt step with
  | ok next =>
    rw [proceed_of_done done]
    rcases attempt_cases done with
      ⟨c, accepting, rfl, _, _, rfl⟩ | ⟨_, rfl, _, _, _, rfl⟩ | ⟨_, rfl, _, rfl⟩
    · cases accepting <;> rfl
    · simp [insertEdge]
    · simp [insertAccepting]
  | error why => simp [proceed_of_refused done]

/-- The initial node is the first one that was added, if there was none before. -/
theorem initial_build (machine : Machine) (steps : List BuildStep) :
    (machine.build steps).initial = machine.initial.or (machine.added steps).head? := by
  induction steps generalizing machine with
  | nil => simp [build, added]
  | cons step rest ih =>
    have onward : (machine.build (step :: rest)).initial =
        ((machine.proceed step).build rest).initial := rfl
    rw [onward, ih, initial_proceed, added, Option.or_assoc]
    cases machine.addedBy step <;> rfl

theorem build_append (machine : Machine) (first second : List BuildStep) :
    machine.build (first ++ second) = (machine.build first).build second :=
  List.foldl_append

/-- Whatever steps are tried on a new machine, it stays sound. Its initial node is the first that was
added and stays so, and a step that is refused changes nothing. -/
theorem isSound_build {kind : Text} {alphabet : Option (List Label)} {machine : Machine}
    (created : createNamed kind alphabet = .ok machine) (steps : List BuildStep) :
    (machine.build steps).IsSound ∧
      (machine.build steps).initial = (machine.added steps).head? ∧
      (∀ later start, (machine.build steps).initial = some start →
        (machine.build (steps ++ later)).initial = some start) ∧
      ∀ step why, (machine.build steps).attempt step = .error why →
        machine.build (steps ++ [step]) = machine.build steps := by
  have createdKind : ∃ kind, create kind alphabet = .ok machine := by
    unfold createNamed at created
    split at created
    · cases created
    · exact ⟨_, created⟩
  obtain ⟨kind, created⟩ := createdKind
  refine ⟨((isLawful_of_create created).build steps).isSound, ?_, ?_, ?_⟩
  · obtain ⟨symbols, rfl, _⟩ := create_cases created
    rw [initial_build]
    rfl
  · intro later start starts
    rw [build_append, initial_build, starts]
    rfl
  · intro step why refused
    rw [build_append]
    exact proceed_of_refused refused

/-- Steps of which every second one is refused: a reserved name, a name that is taken, an edge to
nowhere and an empty move. The last edge takes the place of the one before. -/
def stepsWithRefusals : List BuildStep :=
  [.node (Label.ofChar '?') false, .node (Label.ofChar 'x') true, .node (Label.ofChar 'x') false,
    .node (Label.ofChar 'y') false,
    .edge (Label.ofChar 'x') (Label.ofChar 'a') (Label.ofChar 'z'),
    .edge (Label.ofChar 'x') (Label.ofChar 'a') (Label.ofChar 'x'),
    .edge (Label.ofChar 'x') (Label.ofChar 'e') (Label.ofChar 'y'),
    .edge (Label.ofChar 'x') (Label.ofChar 'a') (Label.ofChar 'y')]

theorem isSound_build_with_refusals :
    createNamed "DFA" (some [Label.ofChar 'a', Label.ofChar 'b']) =
        .ok (empty .deterministic ['a', 'b']) ∧
      ((empty .deterministic ['a', 'b']).build stepsWithRefusals).IsSound ∧
      ((empty .deterministic ['a', 'b']).build stepsWithRefusals).initial = some 'x' ∧
      (empty .deterministic ['a', 'b']).build (stepsWithRefusals ++ [.accept none]) =
        (empty .deterministic ['a', 'b']).build stepsWithRefusals := by
  have created : createNamed "DFA" (some [Label.ofChar 'a', Label.ofChar 'b']) =
      .ok (empty .deterministic ['a', 'b']) := by
    decide
  obtain ⟨sound, starts, _, unchanged⟩ := isSound_build created stepsWithRefusals
  refine ⟨created, sound, ?_, unchanged (.accept none) (.unknownNodes [none]) (by decide)⟩
  rw [starts]
  decide

end AutomataShell.Machine
