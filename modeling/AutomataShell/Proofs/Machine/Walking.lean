import Mathlib.Data.List.Nodup
import AutomataShell.Machine.Acceptance
import AutomataShell.Proofs.Machine.Graph

/-! What a deterministic machine makes of a word. It reports the first of four obstacles that there
is; without one, the word labels a single route through the transitions, whose end decides. -/

set_option autoImplicit false

namespace AutomataShell.Machine

variable {machine : Machine}

/-- A way through the transitions that a word labels, with the nodes that it comes to. -/
inductive Route (machine : Machine) : Char → Text → List Char → Prop where
  | stay (node : Char) : Route machine node [] []
  | go {source letter target : Char} {rest : Text} {visited : List Char}
      (leads : machine.Leads source letter target) (onward : Route machine target rest visited) :
      Route machine source (letter :: rest) (target :: visited)

def HasGap (machine : Machine) (node symbol : Char) : Prop :=
  node ∈ machine.nodes ∧ symbol ∈ machine.alphabet ∧ ∀ target, ¬ machine.Leads node symbol target

/-- Every gap once, by ascending node and then by the place of the symbol in the alphabet. -/
structure ListsGaps (machine : Machine) (missing : List (Char × Char)) : Prop where
  mem_iff : ∀ node symbol, (node, symbol) ∈ missing ↔ machine.HasGap node symbol
  nodup : missing.Nodup
  ordered : missing.Pairwise fun first second =>
    first.1 < second.1 ∨ first.1 = second.1 ∧
      machine.alphabet.idxOf first.2 < machine.alphabet.idxOf second.2

def IsReady (machine : Machine) : Prop :=
  machine.nodes ≠ [] ∧ (∀ node symbol, ¬ machine.HasGap node symbol) ∧
    ∃ node ∈ machine.nodes, node ∈ machine.accepting

/-- What becomes of a word whose empty moves have been dropped. Each case rules out those before it. -/
inductive Judgement (machine : Machine) (letters : Text) : Except MachineError Bool → Prop where
  | empty (unbuilt : machine.nodes = []) : Judgement machine letters (.error .noNodes)
  | incomplete {missing : List (Char × Char)} (built : machine.nodes ≠ [])
      (gap : ∃ node symbol, machine.HasGap node symbol) (lists : machine.ListsGaps missing) :
      Judgement machine letters (.error (.incomplete missing))
  | unaccepting (built : machine.nodes ≠ []) (complete : ∀ node symbol, ¬ machine.HasGap node symbol)
      (rejecting : ∀ node ∈ machine.nodes, node ∉ machine.accepting) :
      Judgement machine letters (.error .noAccepting)
  | foreign {letter : Char} (ready : machine.IsReady)
      (first : letters.find? (· ∉ machine.alphabet) = some letter) :
      Judgement machine letters
        (.error (.foreignLetter .deterministic (Label.ofChar letter) machine.alphabet))
  | ended {start : Char} {route : List Char} {accepted : Bool} (ready : machine.IsReady)
      (known : ∀ letter ∈ letters, letter ∈ machine.alphabet)
      (starts : machine.initial = some start) (follows : machine.Route start letters route)
      (only : ∀ other, machine.Route start letters other → other = route)
      (inside : ∀ node ∈ route, node ∈ machine.nodes)
      (ends : accepted = true ↔ route.getLastD start ∈ machine.accepting) :
      Judgement machine letters (.ok accepted)

theorem pairwise_idxOf {symbols : List Char} (distinct : symbols.Nodup) :
    symbols.Pairwise fun first second => symbols.idxOf first < symbols.idxOf second := by
  rw [List.pairwise_iff_getElem]
  intro i j inFirst inSecond less
  rwa [distinct.idxOf_getElem i inFirst, distinct.idxOf_getElem j inSecond]

/-- The gaps of a machine can be listed in one way only. -/
theorem ListsGaps.unique {first second : List (Char × Char)} (listsFirst : machine.ListsGaps first)
    (listsSecond : machine.ListsGaps second) : first = second := by
  have sameMembers : first.Perm second := by
    rw [List.perm_ext_iff_of_nodup listsFirst.nodup listsSecond.nodup]
    intro pair
    rw [listsFirst.mem_iff pair.1 pair.2, listsSecond.mem_iff pair.1 pair.2]
  refine sameMembers.eq_of_pairwise ?_ listsFirst.ordered listsSecond.ordered
  rintro left right _ _ (less | ⟨same, less⟩) (more | ⟨other, more⟩)
  · exact absurd (Char.lt_trans less more) (Char.lt_irrefl _)
  · exact absurd (other ▸ less) (Char.lt_irrefl _)
  · exact absurd (same ▸ more) (Char.lt_irrefl _)
  · omega

namespace IsProper

theorem targets_eq_nil_iff (proper : machine.IsProper) (node symbol : Char) :
    machine.targets node symbol = [] ↔ ∀ target, ¬ machine.Leads node symbol target := by
  rw [List.eq_nil_iff_forall_not_mem]
  exact forall_congr' fun target => by rw [mem_targets, proper.leads_iff_mem_edges]

theorem mem_missing_iff (proper : machine.IsProper) (node symbol : Char) :
    (node, symbol) ∈ machine.missing ↔ machine.HasGap node symbol := by
  rw [mem_missing, proper.targets_eq_nil_iff, HasGap]

theorem isComplete_iff (proper : machine.IsProper) :
    machine.isComplete = true ↔ ∀ node symbol, ¬ machine.HasGap node symbol := by
  rw [isComplete, List.isEmpty_iff, List.eq_nil_iff_forall_not_mem]
  constructor
  · intro none node symbol gap
    exact none (node, symbol) ((proper.mem_missing_iff node symbol).2 gap)
  · intro none pair member
    exact none pair.1 pair.2 ((proper.mem_missing_iff pair.1 pair.2).1 member)

theorem listsGaps_missing (proper : machine.IsProper) : machine.ListsGaps machine.missing := by
  have ordered : machine.missing.Pairwise fun first second =>
      first.1 < second.1 ∨ first.1 = second.1 ∧
        machine.alphabet.idxOf first.2 < machine.alphabet.idxOf second.2 := by
    rw [missing, List.pairwise_flatMap]
    constructor
    · -- Within a node, the gaps keep the order of the alphabet.
      intro node _
      rw [List.pairwise_map]
      exact ((pairwise_idxOf proper.distinct).filter _).imp fun less => Or.inr ⟨rfl, less⟩
    · refine proper.ascending.imp fun before first inFirst second inSecond => Or.inl ?_
      obtain ⟨_, _, rfl⟩ := List.mem_map.1 inFirst
      obtain ⟨_, _, rfl⟩ := List.mem_map.1 inSecond
      simpa [charBefore] using before
  refine ⟨proper.mem_missing_iff, ordered.imp ?_, ordered⟩
  rintro first second (less | ⟨_, less⟩) rfl
  · exact absurd less (Char.lt_irrefl first.1)
  · exact absurd less (Nat.lt_irrefl _)

variable {node : Char}

theorem exists_next (proper : machine.IsProper)
    (complete : ∀ node symbol, ¬ machine.HasGap node symbol) (isNode : node ∈ machine.nodes)
    {letter : Char} (known : letter ∈ machine.alphabet) :
    ∃ target ∈ machine.nodes, machine.next node letter = some target ∧
      machine.Leads node letter target := by
  have some : machine.targets node letter ≠ [] := by
    intro none
    exact complete node letter ⟨isNode, known, (proper.targets_eq_nil_iff node letter).1 none⟩
  obtain ⟨target, others, same⟩ := List.exists_cons_of_ne_nil some
  have member : (⟨node, letter, target⟩ : Edge) ∈ machine.edges := by
    rw [← mem_targets, same]
    exact List.mem_cons_self
  refine ⟨target, (proper.edges_mem _ member).2.2, ?_, ?_⟩
  · rw [next, same, List.head?_cons]
  · exact (proper.leads_iff_mem_edges node letter target).2 member

theorem next_of_foreign (proper : machine.IsProper) (isDeterministic : machine.kind = .deterministic)
    {letter : Char} (foreign : letter ∉ machine.alphabet) : machine.next node letter = none := by
  rw [next, List.head?_eq_none_iff, List.eq_nil_iff_forall_not_mem]
  intro target member
  have onEdge := (proper.edges_mem _ ((mem_targets machine node letter target).1 member)).2.1
  simp only [symbols, isDeterministic] at onEdge
  exact foreign onEdge

/-- In a complete machine only a foreign letter stops a walk, and the first one does. -/
theorem walk_of_foreign (proper : machine.IsProper) (isDeterministic : machine.kind = .deterministic)
    (complete : ∀ node symbol, ¬ machine.HasGap node symbol) (isNode : node ∈ machine.nodes)
    {letters : Text} {letter : Char}
    (first : letters.find? (· ∉ machine.alphabet) = some letter) :
    machine.walk node letters = .error letter := by
  induction letters generalizing node with
  | nil => cases first
  | cons c rest ih =>
    rw [walk]
    by_cases known : c ∈ machine.alphabet
    · obtain ⟨target, isTarget, leads, _⟩ := proper.exists_next complete isNode known
      rw [leads]
      rw [List.find?_cons_of_neg (by simpa using known)] at first
      exact ih isTarget first
    · rw [List.find?_cons_of_pos (by simpa using known), Option.some.injEq] at first
      rw [proper.next_of_foreign isDeterministic known, first]

/-- A word of known letters never leaves a complete machine. -/
theorem walk_of_known (proper : machine.IsProper)
    (complete : ∀ node symbol, ¬ machine.HasGap node symbol) (isNode : node ∈ machine.nodes)
    {letters : Text} (known : ∀ letter ∈ letters, letter ∈ machine.alphabet) :
    ∃ route, machine.Route node letters route ∧ (∀ other ∈ route, other ∈ machine.nodes) ∧
      machine.walk node letters = .ok (route.getLastD node) := by
  induction letters generalizing node with
  | nil => exact ⟨[], .stay node, by simp, rfl⟩
  | cons c rest ih =>
    obtain ⟨target, isTarget, next, leads⟩ :=
      proper.exists_next complete isNode (known c List.mem_cons_self)
    obtain ⟨route, follows, inside, ends⟩ :=
      ih isTarget fun letter member => known letter (List.mem_cons_of_mem c member)
    refine ⟨target :: route, .go leads follows, List.forall_mem_cons.2 ⟨isTarget, inside⟩, ?_⟩
    rw [walk, next, List.getLastD_cons]
    exact ends

theorem route_unique (proper : machine.IsProper) (isDeterministic : machine.kind = .deterministic)
    {letters : Text} {first second : List Char} (followsFirst : machine.Route node letters first)
    (followsSecond : machine.Route node letters second) : first = second := by
  induction followsFirst generalizing second with
  | stay node =>
    cases followsSecond
    rfl
  | go leads onward ih =>
    cases followsSecond with
    | go otherLeads otherOnward =>
      cases proper.leads_unique isDeterministic leads otherLeads
      rw [ih otherOnward]

theorem accepting_eq_nil_iff (proper : machine.IsProper) :
    machine.accepting = [] ↔ ∀ node ∈ machine.nodes, node ∉ machine.accepting := by
  rw [List.eq_nil_iff_forall_not_mem]
  constructor
  · exact fun none node _ => none node
  · exact fun none node member => none node (proper.accepting_mem node member) member

theorem exists_judgement (proper : machine.IsProper) (isDeterministic : machine.kind = .deterministic)
    (letters : Text) : ∃ outcome, machine.Judgement letters outcome := by
  by_cases built : machine.nodes = []
  · exact ⟨_, .empty built⟩
  by_cases complete : ∀ node symbol, ¬ machine.HasGap node symbol
  · by_cases rejecting : ∀ node ∈ machine.nodes, node ∉ machine.accepting
    · exact ⟨_, .unaccepting built complete rejecting⟩
    · have ready : machine.IsReady := ⟨built, complete, by simpa using rejecting⟩
      cases first : letters.find? (· ∉ machine.alphabet) with
      | some letter => exact ⟨_, .foreign ready first⟩
      | none =>
        obtain ⟨start, isNode, starts⟩ := proper.exists_initial built
        have known : ∀ letter ∈ letters, letter ∈ machine.alphabet := by
          simpa using List.find?_eq_none.1 first
        obtain ⟨route, follows, inside, _⟩ := proper.walk_of_known complete isNode known
        exact ⟨_, .ended ready known starts follows
          (fun other otherwise => proper.route_unique isDeterministic otherwise follows) inside
          decide_eq_true_iff⟩
  · exact ⟨_, .incomplete built (by simpa using complete) proper.listsGaps_missing⟩

theorem accepts_of_judgement (proper : machine.IsProper)
    (isDeterministic : machine.kind = .deterministic) {word : Text}
    {outcome : Except MachineError Bool}
    (judgement : machine.Judgement (word.filter (· ≠ emptyMove)) outcome) :
    machine.accepts word = outcome := by
  have complete_iff := proper.isComplete_iff
  simp only [accepts, isDeterministic, acceptsDeterministic]
  cases judgement with
  | empty unbuilt => rw [proper.initial_eq_none_iff.2 unbuilt]
  | @incomplete missing built gap lists =>
    obtain ⟨start, _, starts⟩ := proper.exists_initial built
    have unfinished : machine.isComplete = false := by
      rw [← Bool.not_eq_true, complete_iff]
      simpa using gap
    simp [starts, unfinished, lists.unique proper.listsGaps_missing]
  | unaccepting built complete rejecting =>
    obtain ⟨start, _, starts⟩ := proper.exists_initial built
    simp [starts, complete_iff.2 complete, proper.accepting_eq_nil_iff.2 rejecting]
  | foreign ready first =>
    obtain ⟨built, complete, node, isNode, accepting⟩ := ready
    obtain ⟨start, isStart, starts⟩ := proper.exists_initial built
    have some : machine.accepting ≠ [] := List.ne_nil_of_mem accepting
    simp only [starts, complete_iff.2 complete, List.isEmpty_iff, some,
      proper.walk_of_foreign isDeterministic complete isStart first]
    rfl
  | @ended start route accepted ready known starts follows only inside ends =>
    obtain ⟨built, complete, node, isNode, accepting⟩ := ready
    have some : machine.accepting ≠ [] := List.ne_nil_of_mem accepting
    obtain ⟨other, otherwise, _, walked⟩ :=
      proper.walk_of_known complete (proper.initial_mem start starts) known
    cases only other otherwise
    have verdict : machine.accepting.contains (route.getLastD start) = accepted := by
      rw [Bool.eq_iff_iff, ends, List.contains_iff_mem]
    simp only [starts, complete_iff.2 complete, List.isEmpty_iff, some, walked, verdict]
    rfl

end IsProper

/-- Whatever the steps are that built a deterministic machine, it answers a word by its judgement. -/
theorem accepts_eq_iff_judgement {alphabet : Option (List Label)} {fresh : Machine}
    (created : create .deterministic alphabet = .ok fresh) (steps : List BuildStep) (word : Text)
    (outcome : Except MachineError Bool) :
    (fresh.build steps).accepts word = outcome ↔
      (fresh.build steps).Judgement (word.filter (· ≠ emptyMove)) outcome := by
  have proper := (isProper_of_create created).build steps
  have isDeterministic : (fresh.build steps).kind = .deterministic := by
    rw [kind_build, kind_of_create created]
  constructor
  · rintro rfl
    obtain ⟨outcome, judgement⟩ :=
      proper.exists_judgement isDeterministic (word.filter (· ≠ emptyMove))
    rw [proper.accepts_of_judgement isDeterministic judgement]
    exact judgement
  · exact proper.accepts_of_judgement isDeterministic

/-- A loop at the first node and a way to the second, which accepts. A node that is there already and an
edge without a letter are refused in between. -/
def stepsToAccept : List BuildStep :=
  [.node (Label.ofChar 'x') false, .node (Label.ofChar 'x') true, .node (Label.ofChar 'y') true,
    .edge (Label.ofChar 'x') (Label.ofChar 'a') (Label.ofChar 'x'),
    .edge (Label.ofChar 'x') (Label.ofChar 'e') (Label.ofChar 'y'),
    .edge (Label.ofChar 'x') (Label.ofChar 'b') (Label.ofChar 'y'),
    .edge (Label.ofChar 'y') (Label.ofChar 'a') (Label.ofChar 'y'),
    .edge (Label.ofChar 'y') (Label.ofChar 'b') (Label.ofChar 'x')]

theorem judgement_of_steps :
    create .deterministic (some [Label.ofChar 'a', Label.ofChar 'b']) =
        .ok (empty .deterministic ['a', 'b']) ∧
      ((empty .deterministic ['a', 'b']).build stepsToAccept).Judgement ['a', 'b'] (.ok true) ∧
      ((empty .deterministic ['a', 'b']).build stepsToAccept).Judgement ['b', 'c', 'd']
        (.error (.foreignLetter .deterministic (Label.ofChar 'c') ['a', 'b'])) := by
  have created : create .deterministic (some [Label.ofChar 'a', Label.ofChar 'b']) =
      .ok (empty .deterministic ['a', 'b']) := by
    decide
  refine ⟨created, ?_, ?_⟩
  · exact (accepts_eq_iff_judgement created stepsToAccept ['a', 'e', 'b'] _).1 (by decide)
  · exact (accepts_eq_iff_judgement created stepsToAccept ['b', 'c', 'd'] _).1 (by decide)

end AutomataShell.Machine
