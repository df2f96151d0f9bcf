import AutomataShell.Proofs.Drawing.Collecting

/-! The lines of a drawing. The graph alone tells them, so machines with the same graph are drawn
alike, in whatever order their steps came. -/

set_option autoImplicit false

namespace AutomataShell.Machine

open Text

variable {machine : Machine}

/-- The lines that lead to the initial node. Without one there are none. -/
inductive ShowsStart (machine : Machine) : List Text → Prop where
  | unbuilt (none : machine.initial = none) : ShowsStart machine []
  | built {start : Char} (starts : machine.initial = some start) :
      ShowsStart machine ["  __start__ [shape=point];", "  __start__ -> \x22" ++ [start] ++ "\x22;"]

/-- The line of a node, which has a double circle just when it accepts. -/
def ShowsNode (machine : Machine) (node : Char) (line : Text) : Prop :=
  node ∈ machine.accepting ∧ line = "  \x22" ++ [node] ++ "\x22 [shape=doublecircle];" ∨
    node ∉ machine.accepting ∧ line = "  \x22" ++ [node] ++ "\x22 [shape=circle];"

/-- A text that shows a graph: after the opening lines the way to the initial node, the nodes in
ascending order and the rows of the graph, each on a line of its own. -/
def Shows (machine : Machine) (style : DrawingStyle) (text : Text) : Prop :=
  ∃ startLines nodeLines nodes rows, machine.ShowsStart startLines ∧
    (nodes.Pairwise (· < ·) ∧ ∀ node, node ∈ nodes ↔ node ∈ machine.nodes) ∧
      List.Forall₂ machine.ShowsNode nodes nodeLines ∧ machine.IsRows rows ∧
        text = join "\n" (openingLines style ++ startLines ++ nodeLines ++ rows.map Row.line ++
          [("\x7d" : Text)])

theorem showsStart_iff (machine : Machine) (lines : List Text) :
    machine.ShowsStart lines ↔ lines = machine.startLines := by
  unfold startLines
  cases starts : machine.initial with
  | none =>
    constructor
    · rintro (_ | startsToo)
      · rfl
      · rw [starts] at startsToo
        cases startsToo
    · rintro rfl
      exact .unbuilt starts
  | some start =>
    constructor
    · rintro (none | startsToo)
      · rw [starts] at none
        cases none
      · rw [starts] at startsToo
        cases startsToo
        rfl
    · rintro rfl
      exact .built starts

theorem showsNode_iff (machine : Machine) (node : Char) (line : Text) :
    machine.ShowsNode node line ↔ line = machine.nodeLine node := by
  by_cases accepting : node ∈ machine.accepting
  · simp [ShowsNode, nodeLine, inQuotes, accepting]
  · simp [ShowsNode, nodeLine, inQuotes, accepting]

theorem forall₂_showsNode_iff (machine : Machine) (nodes : List Char) (lines : List Text) :
    List.Forall₂ machine.ShowsNode nodes lines ↔ lines = nodes.map machine.nodeLine := by
  induction nodes generalizing lines with
  | nil => simp
  | cons node nodes ih => simp [List.forall₂_cons_left_iff, showsNode_iff, ih]

/-- The drawing of a graph is the only text that shows it. -/
theorem shows_iff (proper : machine.IsProper) (ordered : machine.IsOrdered) (style : DrawingStyle)
    (text : Text) : machine.Shows style text ↔ text = machine.drawing style := by
  have sameRows := isRows_rows proper ordered
  constructor
  · rintro ⟨startLines, nodeLines, nodes, rows, starts, ⟨ascending, mem_nodes⟩, shown, isRows, rfl⟩
    have sameNodes : nodes = machine.nodes :=
      Ascending.eq_of_isAscending charBefore_strictOrder
        (by simpa [Ascending.IsAscending, charBefore] using ascending) proper.ascending mem_nodes
    rw [(machine.showsStart_iff _).1 starts, (machine.forall₂_showsNode_iff _ _).1 shown, sameNodes,
      isRows.unique sameRows, ← edgeLines_eq]
    rfl
  · rintro rfl
    refine ⟨_, _, machine.nodes, machine.rows, (machine.showsStart_iff _).2 rfl,
      ⟨proper.nodes_pairwise, fun _ => Iff.rfl⟩, (machine.forall₂_showsNode_iff _ _).2 rfl, sameRows,
      ?_⟩
    rw [← edgeLines_eq]
    rfl

/-- What shows a graph shows every machine with the same graph. -/
theorem Shows.congr {other : Machine} {style : DrawingStyle} {text : Text}
    (shows : machine.Shows style text) (kind : machine.kind = other.kind)
    (nodes : ∀ node, node ∈ machine.nodes ↔ node ∈ other.nodes)
    (initial : machine.initial = other.initial)
    (accepting : ∀ node, node ∈ machine.accepting ↔ node ∈ other.accepting)
    (leads : ∀ source symbol target,
      machine.Leads source symbol target ↔ other.Leads source symbol target) :
    other.Shows style text := by
  obtain ⟨startLines, nodeLines, names, rows, starts, ⟨ascending, mem_names⟩, shown, isRows, same⟩ :=
    shows
  refine ⟨startLines, nodeLines, names, rows, ?_,
    ⟨ascending, fun node => (mem_names node).trans (nodes node)⟩, shown.imp fun node line => ?_,
    isRows.congr kind leads, same⟩
  · cases starts with
    | unbuilt none => exact .unbuilt (initial ▸ none)
    | built starts => exact .built (initial ▸ starts)
  · rw [ShowsNode, accepting]
    exact id

/-- The drawing of a machine is the one text that shows its graph. It comes out of the transitions in
whatever order they are collected, and of every machine that has the same graph. -/
theorem shows_drawing {kind : Kind} {alphabet : Option (List Label)} {fresh : Machine}
    (created : create kind alphabet = .ok fresh) (steps : List BuildStep) (style : DrawingStyle) :
    let machine := fresh.build steps
    (∀ text, machine.Shows style text ↔ text = machine.drawing style) ∧
      (∀ listing : List Edge, listing.Nodup →
        (∀ edge, edge ∈ listing ↔ machine.Leads edge.source edge.symbol edge.target) →
          machine.edgeLines = (machine.collect listing).map Row.line) ∧
      ∀ otherAlphabet otherFresh otherSteps, create kind otherAlphabet = .ok otherFresh →
        let other := otherFresh.build otherSteps
        (∀ node, node ∈ machine.nodes ↔ node ∈ other.nodes) → machine.initial = other.initial →
          (∀ node, node ∈ machine.accepting ↔ node ∈ other.accepting) →
            (∀ source symbol target,
              machine.Leads source symbol target ↔ other.Leads source symbol target) →
              other.drawing style = machine.drawing style := by
  intro machine
  have proper : machine.IsProper := (isProper_of_create created).build steps
  have ordered : machine.IsOrdered := (isOrdered_of_create created).build steps
  refine ⟨shows_iff proper ordered style, ?_, ?_⟩
  · intro listing distinct transitions
    rw [edgeLines_eq, (isRows_rows proper ordered).unique (isRows_collect distinct transitions)]
  · intro otherAlphabet otherFresh otherSteps otherCreated other nodes initial accepting leads
    have sameKind : machine.kind = other.kind := by
      rw [kind_build, kind_build, kind_of_create created, kind_of_create otherCreated]
    have shows := (shows_iff proper ordered style _).2 rfl
    have shownToo := shows.congr sameKind nodes initial accepting leads
    exact ((shows_iff ((isProper_of_create otherCreated).build otherSteps)
      ((isOrdered_of_create otherCreated).build otherSteps) style _).1 shownToo).symm

/-- A letter and the empty move are drawn alike between two nodes, and a node leads to itself. -/
def stepsAlike : List BuildStep :=
  [.node (Label.ofChar 'y') true, .node (Label.ofChar 'x') false,
    .edge (Label.ofChar 'y') (Label.ofChar 'e') (Label.ofChar 'x'),
    .edge (Label.ofChar 'y') (Label.ofChar 'ε') (Label.ofChar 'x'),
    .edge (Label.ofChar 'y') (Label.ofChar 'a') (Label.ofChar 'x'),
    .edge (Label.ofChar 'x') (Label.ofChar 'a') (Label.ofChar 'x')]

/-- The same graph, its nodes and edges in another order. -/
def stepsReordered : List BuildStep :=
  [.node (Label.ofChar 'y') false, .node (Label.ofChar 'x') false,
    .edge (Label.ofChar 'x') (Label.ofChar 'a') (Label.ofChar 'x'),
    .edge (Label.ofChar 'y') (Label.ofChar 'a') (Label.ofChar 'x'),
    .accept (Label.ofChar 'y'),
    .edge (Label.ofChar 'y') (Label.ofChar 'ε') (Label.ofChar 'x'),
    .edge (Label.ofChar 'y') (Label.ofChar 'e') (Label.ofChar 'x')]

theorem shows_stepsAlike :
    let machine := (empty .nondeterministic ['a', 'ε']).build stepsAlike
    let other := (empty .nondeterministic ['ε', 'a']).build stepsReordered
    let listing : List Edge := [⟨'y', 'ε', 'x'⟩, ⟨'y', 'a', 'x'⟩, ⟨'x', 'a', 'x'⟩, ⟨'y', 'e', 'x'⟩]
    create .nondeterministic (some [Label.ofChar 'a', Label.ofChar 'ε']) =
        .ok (empty .nondeterministic ['a', 'ε']) ∧
      create .nondeterministic (some [Label.ofChar 'ε', Label.ofChar 'a']) =
        .ok (empty .nondeterministic ['ε', 'a']) ∧
      machine.Shows .standard (machine.drawing .standard) ∧
      machine.edgeLines = (machine.collect listing).map Row.line ∧
      machine.edgeLines = ["  \x22x\x22 -> \x22x\x22 [label=\x22a\x22];",
        "  \x22y\x22 -> \x22x\x22 [label=\x22a, ε, ε\x22];"] ∧
      other.drawing .standard = machine.drawing .standard := by
  intro machine other listing
  have created : create .nondeterministic (some [Label.ofChar 'a', Label.ofChar 'ε']) =
      .ok (empty .nondeterministic ['a', 'ε']) := by
    decide
  have createdToo : create .nondeterministic (some [Label.ofChar 'ε', Label.ofChar 'a']) =
      .ok (empty .nondeterministic ['ε', 'a']) := by
    decide
  have same : machine.nodes = other.nodes ∧ machine.initial = other.initial ∧
      machine.accepting = other.accepting ∧ machine.edges = other.edges := by
    decide +kernel
  obtain ⟨nodes, initial, accepting, edges⟩ := same
  obtain ⟨shown, collected, alike⟩ := shows_drawing created stepsAlike .standard
  refine ⟨created, createdToo, (shown _).2 rfl, collected listing (by decide) ?_, by decide +kernel,
    ?_⟩
  · have proper : machine.IsProper := (isProper_of_create created).build stepsAlike
    have listed : ∀ edge, edge ∈ machine.edges ↔ edge ∈ listing := by
      have edges : machine.edges.Perm listing := by
        decide +kernel
      exact fun edge => edges.mem_iff
    intro edge
    rw [← listed, proper.leads_iff_mem_edges]
  · refine alike _ _ stepsReordered createdToo ?_ initial ?_ ?_
    · intro node
      rw [nodes]
    · intro node
      rw [accepting]
    · intro source symbol target
      rw [leads_iff, leads_iff, nodes, edges]

end AutomataShell.Machine
