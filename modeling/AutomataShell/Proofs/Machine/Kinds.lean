import AutomataShell.Proofs.Machine.History
import AutomataShell.Proofs.Machine.Sweeping
import AutomataShell.Proofs.Machine.Walking

/-! A deterministic machine beside the nondeterministic one that the same steps build. As long as no edge
takes the place of another they have the same graph, and the frontier of a sweep is the one node that a
walk has come to. -/

set_option autoImplicit false

namespace AutomataShell.Machine

/-- The machine with the same graph that is free to have a choice. -/
def withChoice (machine : Machine) : Machine :=
  { machine with kind := .nondeterministic }

variable {machine first : Machine} {steps : List BuildStep}

theorem create_withChoice {alphabet : Option (List Label)}
    (created : create .deterministic alphabet = .ok first) :
    create .nondeterministic alphabet = .ok first.withChoice := by
  unfold create at created ⊢
  cases alphabet with
  | none => cases created
  | some labels =>
    cases checked : checkSymbols labels with
    | error why =>
      simp only [checked] at created
      cases created
    | ok symbols =>
      simp only [checked] at created ⊢
      split at created
      · cases created
      · rename_i distinct
        split at created
        · cases created
        · cases created
          rw [if_neg distinct, if_neg (by simp)]
          rfl

theorem history_sublist (machine : Machine) (steps : List BuildStep) :
    (machine.history steps).Sublist steps := by
  induction steps generalizing machine with
  | nil => exact .slnil
  | cons step rest ih =>
    rw [history]
    split
    · exact (ih _).cons_cons step
    · exact (ih machine).cons step

/-- If all steps are carried out, the first one is, and then all the others are. -/
theorem exists_attempt_of_history {step : BuildStep} {rest : List BuildStep}
    (carriedOut : machine.history (step :: rest) = step :: rest) :
    ∃ next, machine.attempt step = .ok next ∧ next.history rest = rest := by
  rw [history] at carriedOut
  split at carriedOut
  · rename_i next done
    exact ⟨next, done, (List.cons.inj carriedOut).2⟩
  · have shorter := (history_sublist machine rest).length_le
    rw [carriedOut, List.length_cons] at shorter
    omega

/-- A deterministic machine, and one that may have a choice, with the same nodes and letters. -/
structure Alike (machine other : Machine) : Prop where
  isDeterministic : machine.kind = .deterministic
  isNondeterministic : other.kind = .nondeterministic
  alphabet : other.alphabet = machine.alphabet
  nodes : other.nodes = machine.nodes

namespace Alike

variable {other next : Machine}

theorem mem_symbols (alike : machine.Alike other) {symbol : Char} (known : symbol ∈ machine.symbols) :
    symbol ∈ other.symbols := by
  simp only [symbols, alike.isDeterministic, alike.isNondeterministic, alike.alphabet] at known ⊢
  split
  · exact known
  · exact List.mem_append_left _ known

theorem attempt (alike : machine.Alike other) {step : BuildStep}
    (done : machine.attempt step = .ok next) :
    ∃ last, other.attempt step = .ok last ∧ next.Alike last := by
  obtain ⟨isDeterministic, isNondeterministic, alphabet, nodes⟩ := alike
  rcases attempt_cases done with
    ⟨c, accepting, rfl, legal, new, rfl⟩ | ⟨edge, rfl, source, symbol, target, rfl⟩ | ⟨c, rfl, known, rfl⟩
  · have checked : other.checkNewNode (Label.ofChar c) = .ok c :=
      (checkNewNode_eq_ok_iff other _ c).2 ⟨rfl, legal, nodes ▸ new⟩
    refine ⟨_, by rw [attempt_node, checked]; rfl, ?_⟩
    have sameNodes : (other.insertNode c).nodes = (machine.insertNode c).nodes := by
      rw [Machine.insertNode, nodes]
      rfl
    cases accepting <;> exact ⟨isDeterministic, isNondeterministic, alphabet, sameNodes⟩
  · have checked : other.checkEdge (Label.ofChar edge.source) (Label.ofChar edge.symbol)
        (Label.ofChar edge.target) = .ok edge := by
      refine (checkEdge_eq_ok_iff other _ _ _ edge).2 ⟨?_, ?_, ?_⟩
      · exact (findNode_eq_ok_iff other _ _).2 ⟨rfl, nodes ▸ source⟩
      · exact (findNode_eq_ok_iff other _ _).2 ⟨rfl, nodes ▸ target⟩
      · refine (findSymbol_eq_ok_iff other _ _).2 ⟨rfl, ?_, by simp [isNondeterministic]⟩
        exact mem_symbols ⟨isDeterministic, isNondeterministic, alphabet, nodes⟩ symbol
    refine ⟨_, by rw [attempt_edge, checked]; rfl, ?_⟩
    exact ⟨isDeterministic, isNondeterministic, alphabet, nodes⟩
  · have found : other.findNode (Label.ofChar c) = .ok c :=
      (findNode_eq_ok_iff other _ c).2 ⟨rfl, nodes ▸ known⟩
    refine ⟨_, by rw [attempt_accept, found]; rfl, ?_⟩
    exact ⟨isDeterministic, isNondeterministic, alphabet, nodes⟩

/-- A free machine refuses none of the steps that a deterministic one carries out. -/
theorem history (alike : machine.Alike other) (carriedOut : machine.history steps = steps) :
    other.history steps = steps := by
  induction steps generalizing machine other with
  | nil => rfl
  | cons step rest ih =>
    obtain ⟨next, done, further⟩ := exists_attempt_of_history carriedOut
    obtain ⟨last, doneToo, alike⟩ := alike.attempt done
    rw [Machine.history, doneToo]
    exact congrArg (step :: ·) (ih alike further)

end Alike

/-- No two of the steps draw edges from one source along one symbol to different targets. -/
def NeverRedraws (steps : List BuildStep) : Prop :=
  ∀ source symbol first second, .edge source symbol first ∈ steps →
    .edge source symbol second ∈ steps → first = second

theorem getLast?_drawn_eq_some_iff (constant : NeverRedraws steps) (edge : Edge) :
    (drawn edge.source edge.symbol steps).getLast? = some edge.target ↔ edge.step ∈ steps := by
  have drew (target : Char) : target ∈ drawn edge.source edge.symbol steps ↔
      Edge.step ⟨edge.source, edge.symbol, target⟩ ∈ steps :=
    mem_drawn edge.source edge.symbol target steps
  constructor
  · intro last
    exact (drew edge.target).1 (List.mem_of_getLast? last)
  · intro member
    cases last : (drawn edge.source edge.symbol steps).getLast? with
    | none =>
      have drawn := (drew edge.target).2 member
      rw [List.getLast?_eq_none_iff.1 last] at drawn
      cases drawn
    | some target =>
      have sameLabel := constant _ _ _ _ ((drew target).1 (List.mem_of_getLast? last)) member
      simpa [Label.ofChar] using sameLabel

/-- Steps that never redraw an edge build the same graph in either kind of machine. -/
theorem build_withChoice {alphabet : Option (List Label)}
    (created : create .deterministic alphabet = .ok first)
    (carriedOut : first.history steps = steps) (constant : NeverRedraws steps) :
    first.withChoice.history steps = steps ∧
      first.withChoice.build steps = (first.build steps).withChoice := by
  have createdToo := create_withChoice created
  have alike : first.Alike first.withChoice := ⟨kind_of_create created, rfl, rfl, rfl⟩
  have carriedOutToo := alike.history carriedOut
  refine ⟨carriedOutToo, ?_⟩
  have reflects := (reflects_of_create created).build steps
  have reflectsToo := (reflects_of_create createdToo).build steps
  rw [carriedOut, List.nil_append] at reflects
  rw [carriedOutToo, List.nil_append] at reflectsToo
  have ordered := (isOrdered_of_create created).build steps
  have isDeterministic : (first.build steps).kind = .deterministic :=
    (kind_build _ _).trans (kind_of_create created)
  have isNondeterministic : (first.withChoice.build steps).kind = .nondeterministic :=
    kind_build _ _
  refine ((isOrdered_of_create createdToo).build steps).ext
    ⟨ordered.nodes, ordered.accepting, ordered.edges⟩ isNondeterministic ?_ ?_ ?_ ?_ ?_
  · exact (alphabet_build _ steps).trans (alphabet_build first steps).symm
  · exact reflectsToo.initial.trans reflects.initial.symm
  · exact fun c => (reflectsToo.nodes c).trans (reflects.nodes c).symm
  · exact fun c => (reflectsToo.accepting c).trans (reflects.accepting c).symm
  · intro edge
    rw [reflectsToo.gathered isNondeterministic, ← getLast?_drawn_eq_some_iff constant]
    exact (reflects.latest isDeterministic edge).symm

section

variable {machine : Machine}

theorem IsProper.withChoice (proper : machine.IsProper)
    (isDeterministic : machine.kind = .deterministic) : machine.withChoice.IsProper where
  distinct := proper.distinct
  ascending := proper.ascending
  initial_eq_none_iff := proper.initial_eq_none_iff
  initial_mem := proper.initial_mem
  accepting_mem := proper.accepting_mem
  edges_mem edge member := by
    obtain ⟨source, symbol, target⟩ := proper.edges_mem edge member
    have alike : machine.Alike machine.withChoice := ⟨isDeterministic, rfl, rfl, rfl⟩
    exact ⟨source, alike.mem_symbols symbol, target⟩
  single isDeterministic := by cases isDeterministic

/-- Without empty moves on its edges, a machine reaches nothing more by them. -/
theorem εClosure_of_unmoving (unmoving : ∀ edge ∈ machine.edges, edge.symbol ≠ emptyMove)
    (seeds : Set Char) : machine.graph.εClosure seeds = seeds := by
  refine Set.Subset.antisymm (fun node reached => ?_) (machine.graph.subset_εClosure seeds)
  induction reached with
  | base node member => exact member
  | step source target leads _ _ =>
    have onEdge := ((leads_iff machine source emptyMove target).1 leads).2
    exact absurd rfl (unmoving _ onEdge)

/-- The frontier is the one node that the walk has come to. -/
theorem foldl_stepSet_of_walk (lawful : machine.IsLawful)
    (isDeterministic : machine.kind = .deterministic) {node final : Char} {letters : Text}
    (walked : machine.walk node letters = .ok final) :
    letters.foldl machine.withChoice.graph.stepSet {node} = {final} := by
  induction letters generalizing node with
  | nil =>
    cases walked
    rfl
  | cons letter rest ih =>
    rw [walk] at walked
    split at walked
    · cases walked
    · rename_i target next
      have leads (other : Char) : machine.withChoice.Leads node letter other ↔ other = target := by
        have same : machine.withChoice.Leads node letter other ↔ machine.Leads node letter other :=
          Iff.rfl
        rw [same, ← lawful.next_eq_some_iff isDeterministic, next, Option.some.injEq, eq_comm]
      -- No move is empty, so a step of the frontier is the one edge along the letter.
      have unmoving : ∀ edge ∈ machine.withChoice.edges, edge.symbol ≠ emptyMove :=
        lawful.isSound.moveless isDeterministic
      have stepped : machine.withChoice.graph.stepSet {node} letter = {target} := by
        ext other
        simp only [εNFA.mem_stepSet_iff, Set.mem_singleton_iff, exists_eq_left,
          εClosure_of_unmoving unmoving]
        exact leads other
      rw [List.foldl_cons, stepped]
      exact ih walked

/-- A complete machine with an accepting node accepts the words that lead a walk to such a node. -/
theorem accepts_eq_true_iff (isDeterministic : machine.kind = .deterministic) {start : Char}
    (starts : machine.initial = some start) (complete : machine.isComplete = true)
    (some : machine.accepting ≠ []) {letters : Text} (consumed : emptyMove ∉ letters) :
    machine.accepts letters = .ok true ↔
      ∃ final ∈ machine.accepting, machine.walk start letters = .ok final := by
  have kept : letters.filter (· ≠ emptyMove) = letters := by
    refine List.filter_eq_self.2 fun letter member => ?_
    have other : letter ≠ emptyMove := fun same => consumed (same ▸ member)
    simpa using other
  simp only [accepts, isDeterministic, acceptsDeterministic, starts, complete, List.isEmpty_iff, some,
    kept]
  cases machine.walk start letters <;> simp

/-- The sweep of a free machine with the graph of a complete one looks out for accepting nodes on the
walk. -/
theorem exists_accepted_withChoice (lawful : machine.IsLawful)
    (isDeterministic : machine.kind = .deterministic) (complete : machine.isComplete = true)
    {start : Char} (starts : machine.initial = some start) {word : Text}
    (known : ∀ letter ∈ word, letter ∈ machine.alphabet) :
    ∃ accepted, machine.withChoice.accepts word = .ok accepted ∧
      (accepted = true ↔ ∃ letters rest, word = letters ++ rest ∧ letters ≠ [] ∧
        ∃ final ∈ machine.accepting, machine.walk start letters = .ok final) := by
  have proper := lawful.toIsProper.withChoice isDeterministic
  have unmoving : ∀ edge ∈ machine.withChoice.edges, edge.symbol ≠ emptyMove :=
    lawful.isSound.moveless isDeterministic
  have isNode := lawful.initial_mem start starts
  have walks {letters : Text} (known : ∀ letter ∈ letters, letter ∈ machine.alphabet) :
      ∃ final, machine.walk start letters = .ok final ∧
        letters.foldl machine.withChoice.graph.stepSet {start} = {final} := by
    obtain ⟨route, _, _, walked⟩ :=
      lawful.toIsProper.walk_of_known (lawful.toIsProper.isComplete_iff.1 complete) isNode known
    exact ⟨_, walked, foldl_stepSet_of_walk lawful isDeterministic walked⟩
  obtain ⟨accepted, answered, verdict⟩ := proper.exists_accepted rfl starts word
  refine ⟨accepted, answered, ?_⟩
  obtain ⟨final, _, reached⟩ := walks known
  rw [verdict, εClosure_of_unmoving unmoving]
  simp only [reached, Set.singleton_nonempty, true_and, Touches]
  refine exists_congr fun letters => exists_congr fun rest => and_congr_right fun split =>
    and_congr_right fun _ => ?_
  obtain ⟨stop, walked, reached⟩ :=
    walks fun letter member => known letter (split ▸ List.mem_append_left rest member)
  have sameAccepting : machine.withChoice.accepting = machine.accepting := rfl
  simp [reached, walked, sameAccepting]

end

/-- Steps that build a complete machine with an accepting node, and never redraw an edge, build a
nondeterministic machine too. This one accepts a word over the alphabet just when the other one accepts
a beginning of it that is not empty. -/
theorem accepts_iff_accepts_beginning {alphabet : Option (List Label)}
    (created : create .deterministic alphabet = .ok first)
    (carriedOut : first.history steps = steps) (constant : NeverRedraws steps)
    (complete : (first.build steps).isComplete = true)
    (some : (first.build steps).accepting ≠ []) :
    ∃ second, create .nondeterministic alphabet = .ok second ∧ second.history steps = steps ∧
      (second.build steps).accepts [] = .ok false ∧
      ∀ word : Text, (∀ letter ∈ word, letter ∈ first.alphabet) →
        ∃ accepted, (second.build steps).accepts word = .ok accepted ∧
          (accepted = true ↔ ∃ letters rest, word = letters ++ rest ∧ letters ≠ [] ∧
            (first.build steps).accepts letters = .ok true) := by
  obtain ⟨carriedOutToo, same⟩ := build_withChoice created carriedOut constant
  have lawful := (isLawful_of_create created).build steps
  have isDeterministic : (first.build steps).kind = .deterministic :=
    (kind_build _ _).trans (kind_of_create created)
  have sameAlphabet : (first.build steps).alphabet = first.alphabet := alphabet_build first steps
  obtain ⟨node, accepting⟩ := List.exists_mem_of_ne_nil _ some
  obtain ⟨start, _, starts⟩ := lawful.toIsProper.exists_initial
    (List.ne_nil_of_mem (lawful.accepting_mem node accepting))
  have answers {word : Text} (known : ∀ letter ∈ word, letter ∈ first.alphabet) :=
    exists_accepted_withChoice lawful isDeterministic complete starts (sameAlphabet ▸ known)
  refine ⟨first.withChoice, create_withChoice created, carriedOutToo, ?_, ?_⟩
  · have unlettered : ∀ letter ∈ ([] : Text), letter ∈ first.alphabet := by simp
    obtain ⟨accepted, answered, verdict⟩ := answers unlettered
    rw [same, answered]
    cases accepted with
    | false => rfl
    | true =>
      obtain ⟨letters, rest, split, some, _⟩ := verdict.1 rfl
      exact absurd (List.append_eq_nil_iff.1 split.symm).1 some
  · intro word known
    obtain ⟨accepted, answered, verdict⟩ := answers known
    rw [same]
    refine ⟨accepted, answered, ?_⟩
    rw [verdict]
    refine exists_congr fun letters => exists_congr fun rest => and_congr_right fun split =>
      and_congr_right fun _ => ?_
    have consumed : emptyMove ∉ letters := by
      intro member
      have inAlphabet := known emptyMove (split ▸ List.mem_append_left rest member)
      exact lawful.unmoving isDeterministic (sameAlphabet ▸ inAlphabet)
    rw [accepts_eq_true_iff isDeterministic starts complete some consumed]

/-- The first letter of the alphabet leads to the accepting node, and the second one back. An edge is
drawn twice. -/
def stepsBackAndForth : List BuildStep :=
  [.node (Label.ofChar 'x') false, .node (Label.ofChar 'y') true,
    .edge (Label.ofChar 'x') (Label.ofChar 'a') (Label.ofChar 'y'),
    .edge (Label.ofChar 'x') (Label.ofChar 'b') (Label.ofChar 'x'),
    .edge (Label.ofChar 'y') (Label.ofChar 'a') (Label.ofChar 'y'),
    .edge (Label.ofChar 'x') (Label.ofChar 'a') (Label.ofChar 'y'),
    .edge (Label.ofChar 'y') (Label.ofChar 'b') (Label.ofChar 'x')]

/-- The whole word leads back to a node that does not accept, but not its beginning. -/
theorem accepts_beginning_of_stepsBackAndForth :
    let first := empty .deterministic ['a', 'b']
    let second := empty .nondeterministic ['a', 'b']
    (first.build stepsBackAndForth).accepts ['b', 'a', 'b'] = .ok false ∧
      (first.build stepsBackAndForth).accepts ['b', 'a'] = .ok true ∧
      (second.build stepsBackAndForth).accepts ['b', 'a', 'b'] = .ok true := by
  intro first second
  have created : create .deterministic (some [Label.ofChar 'a', Label.ofChar 'b']) = .ok first := by
    decide
  have constant : NeverRedraws stepsBackAndForth := by
    intro source symbol target other
    simp only [stepsBackAndForth, Label.ofChar, List.mem_cons, List.not_mem_nil]
    grind
  have beginning : (first.build stepsBackAndForth).accepts ['b', 'a'] = .ok true := by
    decide +kernel
  obtain ⟨free, createdToo, _, _, answers⟩ :=
    accepts_iff_accepts_beginning created (by decide +kernel) constant (by decide +kernel)
      (by decide +kernel)
  cases createdToo
  have known : ∀ letter ∈ ['b', 'a', 'b'], letter ∈ first.alphabet := by simp [first, empty]
  obtain ⟨accepted, answered, verdict⟩ := answers ['b', 'a', 'b'] known
  refine ⟨by decide +kernel, beginning, ?_⟩
  rw [verdict.2 ⟨['b', 'a'], ['b'], rfl, by simp, beginning⟩] at answered
  exact answered

end AutomataShell.Machine
