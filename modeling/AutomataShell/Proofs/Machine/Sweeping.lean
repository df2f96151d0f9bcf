import AutomataShell.Machine.Acceptance
import AutomataShell.Proofs.Machine.Closure

/-! What a nondeterministic machine makes of a word. The frontier of its sweep holds what the automaton
of its transitions reaches, so the verdict comes down to two runs, which need not be the same. -/

set_option autoImplicit false

namespace AutomataShell.Machine

variable {machine : Machine}

/-- A run through the transitions that reads a word letter by letter. A label without a letter is an
empty move. -/
def Reads (machine : Machine) (source : Char) (word : Text) (target : Char) : Prop :=
  ∃ labels : List (Option Char), labels.reduceOption = word ∧
    machine.graph.IsPath source target labels

theorem mem_evalFrom_iff_reads (source : Char) (word : Text) (target : Char) :
    target ∈ machine.graph.evalFrom {source} word ↔ machine.Reads source word target :=
  machine.graph.mem_evalFrom_iff_exists_path

theorem foldl_stepSet_empty (word : Text) : word.foldl machine.graph.stepSet ∅ = ∅ := by
  have unreached := machine.graph.evalFrom_empty word
  rwa [εNFA.evalFrom, εNFA.εClosure_empty] at unreached

/-- Whether an accepting node is reached after one of the letters. -/
def Touches (machine : Machine) (reached : Set Char) (word : Text) : Prop :=
  ∃ letters rest, word = letters ++ rest ∧ letters ≠ [] ∧
    ∃ node ∈ letters.foldl machine.graph.stepSet reached, node ∈ machine.accepting

theorem not_touches_nil (reached : Set Char) : ¬ machine.Touches reached [] := by
  rintro ⟨letters, rest, split, some, _⟩
  exact some (List.append_eq_nil_iff.1 split.symm).1

theorem touches_cons_iff (reached : Set Char) (letter : Char) (rest : Text) :
    machine.Touches reached (letter :: rest) ↔
      (∃ node ∈ machine.graph.stepSet reached letter, node ∈ machine.accepting) ∨
        machine.Touches (machine.graph.stepSet reached letter) rest := by
  constructor
  · rintro ⟨letters, after, split, some, node, member, accepting⟩
    obtain ⟨first, others, rfl⟩ := List.exists_cons_of_ne_nil some
    obtain ⟨rfl, rfl⟩ := List.cons_eq_cons.1 split
    rcases others with _ | ⟨next, others⟩
    · exact Or.inl ⟨node, member, accepting⟩
    · exact Or.inr ⟨next :: others, after, rfl, List.cons_ne_nil _ _, node, member, accepting⟩
  · rintro (⟨node, member, accepting⟩ | ⟨letters, after, rfl, _, node, member, accepting⟩)
    · exact ⟨[letter], rest, rfl, List.cons_ne_nil _ _, node, member, accepting⟩
    · exact ⟨letter :: letters, after, rfl, List.cons_ne_nil _ _, node, member, accepting⟩

namespace IsProper

/-- One letter takes the frontier to what the automaton reaches with it. -/
theorem exists_onward (proper : machine.IsProper) {frontier : List Char} {reached : Set Char}
    (areNodes : ∀ node ∈ frontier, node ∈ machine.nodes)
    (holds : ∀ node, node ∈ frontier ↔ node ∈ reached) (letter : Char) :
    ∃ moved onward,
      machine.moveFrom (frontier.map Label.ofChar) (Label.ofChar letter) = .ok moved ∧
      machine.closureOf (moved.map Label.ofChar) = .ok onward ∧
      (∀ node ∈ onward, node ∈ machine.nodes) ∧
        ∀ node, node ∈ onward ↔ node ∈ machine.graph.stepSet reached letter := by
  obtain ⟨moved, moves, mem_moved⟩ := proper.exists_moveFrom areNodes letter
  have movedAreNodes : ∀ target ∈ moved, target ∈ machine.nodes := by
    intro target member
    obtain ⟨source, _, leads⟩ := (mem_moved target).1 member
    exact proper.mem_nodes_of_leads leads
  obtain ⟨onward, closes, onwardAreNodes, mem_onward⟩ :=
    proper.exists_closureOf_nodes movedAreNodes
  refine ⟨moved, onward, moves, closes, onwardAreNodes, fun node => ?_⟩
  rw [mem_onward, εNFA.mem_stepSet_iff]
  constructor
  · intro closed
    obtain ⟨target, inMove, further⟩ := (machine.graph.mem_εClosure_iff_exists).1 closed
    obtain ⟨source, inFrontier, leads⟩ := (mem_moved target).1 inMove
    refine ⟨source, (holds source).1 inFrontier, ?_⟩
    exact (machine.graph.mem_εClosure_iff_exists).2 ⟨target, leads, further⟩
  · rintro ⟨source, inReached, closed⟩
    obtain ⟨target, leads, further⟩ := (machine.graph.mem_εClosure_iff_exists).1 closed
    refine (machine.graph.mem_εClosure_iff_exists).2 ⟨target, ?_, further⟩
    exact (mem_moved target).2 ⟨source, (holds source).2 inReached, leads⟩

-- The frontier is not empty as long as the sweep goes on, so what the whole word reaches is empty
-- exactly when the sweep has come to a dead end.
/-- A sweep from nodes meets no name of no node, and comes to a verdict. -/
theorem exists_sweep (proper : machine.IsProper) {frontier : List Char} {reached : Set Char}
    (areNodes : ∀ node ∈ frontier, node ∈ machine.nodes)
    (holds : ∀ node, node ∈ frontier ↔ node ∈ reached) (some : reached.Nonempty) (touched : Bool)
    (word : Text) :
    ∃ accepted, machine.sweep frontier touched word = .ok accepted ∧
      (accepted = true ↔ (word.foldl machine.graph.stepSet reached).Nonempty ∧
        (touched = true ∨ machine.Touches reached word)) := by
  induction word generalizing frontier reached touched with
  | nil => exact ⟨touched, rfl, by simp [some, not_touches_nil]⟩
  | cons letter rest ih =>
    obtain ⟨moved, onward, moves, closes, areNodesNext, holdsNext⟩ :=
      proper.exists_onward areNodes holds letter
    simp only [sweep, moves, closes, List.foldl_cons, touches_cons_iff, bind, Except.bind]
    by_cases dead : onward = []
    · have unreached : machine.graph.stepSet reached letter = ∅ := by
        ext node
        rw [← holdsNext, dead]
        simp
      exact ⟨false, by rw [dead]; rfl, by simp [unreached, foldl_stepSet_empty]⟩
    · obtain ⟨node, member⟩ := List.exists_mem_of_ne_nil _ dead
      have met : (onward.any fun node => machine.accepting.contains node) = true ↔
          ∃ node ∈ machine.graph.stepSet reached letter, node ∈ machine.accepting := by
        simp [holdsNext]
      obtain ⟨accepted, swept, verdict⟩ := ih areNodesNext holdsNext ⟨node, (holdsNext node).1 member⟩
        (touched || onward.any fun node => machine.accepting.contains node)
      refine ⟨accepted, by simpa [dead] using swept, ?_⟩
      rw [verdict, Bool.or_eq_true, met, or_assoc]

/-- A nondeterministic machine with an initial node has a verdict on every word. -/
theorem exists_accepted (proper : machine.IsProper)
    (isNondeterministic : machine.kind = .nondeterministic) {start : Char}
    (starts : machine.initial = some start) (word : Text) :
    ∃ accepted, machine.accepts word = .ok accepted ∧
      (accepted = true ↔
        (word.foldl machine.graph.stepSet (machine.graph.εClosure {start})).Nonempty ∧
          machine.Touches (machine.graph.εClosure {start}) word) := by
  have areNodes : ∀ seed ∈ [start], seed ∈ machine.nodes := by
    simpa using proper.initial_mem start starts
  obtain ⟨frontier, closes, frontierAreNodes, mem_frontier⟩ :=
    proper.exists_closureOf_nodes areNodes
  have holds (node : Char) : node ∈ frontier ↔ node ∈ machine.graph.εClosure {start} := by
    simpa using mem_frontier node
  have some : (machine.graph.εClosure {start}).Nonempty := ⟨start, .base start rfl⟩
  obtain ⟨accepted, swept, verdict⟩ := proper.exists_sweep frontierAreNodes holds some false word
  refine ⟨accepted, ?_, by simpa using verdict⟩
  rw [List.map_singleton] at closes
  simp only [accepts, isNondeterministic, acceptsNondeterministic, starts, closes]
  exact swept

end IsProper

/-- A nondeterministic machine with nodes accepts just the words that can be read to their end and of
which a beginning that is not empty can be read to an accepting node. -/
theorem accepts_of_nondeterministic {alphabet : Option (List Label)} {fresh : Machine}
    (created : create .nondeterministic alphabet = .ok fresh) (steps : List BuildStep) (word : Text) :
    let machine := fresh.build steps
    (machine.nodes = [] → machine.accepts word = .error .noNodes) ∧
      (machine.nodes ≠ [] → ∃ start accepted, machine.initial = some start ∧
        machine.accepts word = .ok accepted ∧
        (accepted = true ↔
          (∃ final, machine.Reads start word final) ∧
            ∃ letters rest, word = letters ++ rest ∧ letters ≠ [] ∧
              ∃ final, machine.Reads start letters final ∧ final ∈ machine.accepting)) := by
  intro machine
  have proper : machine.IsProper := (isProper_of_create created).build steps
  have isNondeterministic : machine.kind = .nondeterministic := by
    rw [kind_build, kind_of_create created]
  constructor
  · intro unbuilt
    simp only [accepts, isNondeterministic, acceptsNondeterministic,
      proper.initial_eq_none_iff.2 unbuilt]
  · intro built
    obtain ⟨start, _, starts⟩ := proper.exists_initial built
    obtain ⟨accepted, answered, verdict⟩ := proper.exists_accepted isNondeterministic starts word
    refine ⟨start, accepted, starts, answered, ?_⟩
    -- The sweep reaches what the automaton reaches, and that is what the runs reach.
    have reaches (letters : Text) (final : Char) :
        final ∈ letters.foldl machine.graph.stepSet (machine.graph.εClosure {start}) ↔
          machine.Reads start letters final :=
      mem_evalFrom_iff_reads start letters final
    rw [verdict]
    simp only [Set.Nonempty, Touches, reaches]

/-- One letter leads to an accepting dead end and to a loop of empty moves, where the word goes on. -/
def stepsToFork : List BuildStep :=
  [.node (Label.ofChar 'x') false, .node (Label.ofChar 'y') true, .node (Label.ofChar 'z') false,
    .edge (Label.ofChar 'x') (Label.ofChar 'a') (Label.ofChar 'y'),
    .edge (Label.ofChar 'x') (Label.ofChar 'a') (Label.ofChar 'z'),
    .edge (Label.ofChar 'x') (Label.ofChar 'b') (Label.ofChar 'z'),
    .edge (Label.ofChar 'z') (Label.ofChar 'e') (Label.ofChar 'x'),
    .edge (Label.ofChar 'x') (Label.ofChar 'e') (Label.ofChar 'z')]

theorem reads_of_stepsToFork :
    let machine := (empty .nondeterministic ['a']).build stepsToFork
    create .nondeterministic (some [Label.ofChar 'a']) = .ok (empty .nondeterministic ['a']) ∧
      (∃ final, machine.Reads 'x' ['a', 'e', 'a'] final) ∧
        ∃ letters rest, ['a', 'e', 'a'] = letters ++ rest ∧ letters ≠ [] ∧
          ∃ final, machine.Reads 'x' letters final ∧ final ∈ machine.accepting := by
  intro machine
  have created : create .nondeterministic (some [Label.ofChar 'a']) =
      .ok (empty .nondeterministic ['a']) := by
    decide
  obtain ⟨start, accepted, starts, answered, verdict⟩ :=
    (accepts_of_nondeterministic created stepsToFork ['a', 'e', 'a']).2 (by decide)
  have first : machine.initial = some 'x' := by
    decide
  have yes : machine.accepts ['a', 'e', 'a'] = .ok true := by
    decide +kernel
  rw [first, Option.some.injEq] at starts
  rw [yes, Except.ok.injEq] at answered
  subst starts
  exact ⟨created, verdict.1 answered.symm⟩

end AutomataShell.Machine
