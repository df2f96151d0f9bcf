import AutomataShell.Machine.Description
import AutomataShell.Proofs.Machine.Monotonicity
import AutomataShell.Proofs.Machine.Order
import AutomataShell.Proofs.Text.Pieces

/-! What a description tells. Each line shows by its first character whether it is about a node or an edge,
and what it is about stands at fixed places in it, so the graph of a machine can be told from its
description, whatever its nodes and symbols are. -/

set_option autoImplicit false

namespace AutomataShell

namespace Text

variable {opens : Text → Bool}

/-- The lines of blocks, each of them a first line and those that belong to it. -/
def laidOut (blocks : List (Text × List Text)) : List Text :=
  blocks.flatMap fun block => block.1 :: block.2

/-- Whether a line shows that it opens a block exactly if it does. -/
def ArePlain (opens : Text → Bool) (blocks : List (Text × List Text)) : Prop :=
  ∀ block ∈ blocks, opens block.1 = true ∧ ∀ line ∈ block.2, opens line = false

theorem takeWhile_lines {lines : List Text} {rest : List (Text × List Text)}
    (closed : ∀ line ∈ lines, opens line = false) (plain : ArePlain opens rest) :
    (lines ++ laidOut rest).takeWhile (!opens ·) = lines := by
  rw [List.takeWhile_append_of_pos (by simpa using closed), laidOut]
  cases rest with
  | nil => exact List.append_nil lines
  | cons block more =>
    have opened := (plain block List.mem_cons_self).1
    rw [List.flatMap_cons, List.cons_append, List.takeWhile_cons_of_neg (by simp [opened]),
      List.append_nil]

/-- Lines are parted into such blocks in one way. -/
theorem ArePlain.eq_of_laidOut_eq {left right : List (Text × List Text)}
    (plain : ArePlain opens left) (plainToo : ArePlain opens right)
    (same : laidOut left = laidOut right) : left = right := by
  induction left generalizing right with
  | nil =>
    cases right with
    | nil => rfl
    | cons other more => cases same
  | cons block rest ih =>
    cases right with
    | nil => cases same
    | cons other more =>
      obtain ⟨⟨_, closed⟩, plainRest⟩ := List.forall_mem_cons.1 plain
      obtain ⟨⟨_, closedToo⟩, plainMore⟩ := List.forall_mem_cons.1 plainToo
      obtain ⟨sameFirst, same⟩ : block.1 = other.1 ∧
          block.2 ++ laidOut rest = other.2 ++ laidOut more := List.cons.inj same
      have sameLines : block.2 = other.2 := by
        rw [← takeWhile_lines closed plainRest, same, takeWhile_lines closedToo plainMore]
      rw [sameLines, List.append_cancel_left_eq] at same
      rw [Prod.ext sameFirst sameLines, ih plainRest plainMore same]

end Text

namespace Machine

open Text

variable {machine first second : Machine}

/-- What stands behind the name of a node in the first of its lines. -/
def tag (initial accepting : Bool) : Text :=
  match (if initial then [("initial" : Text)] else []) ++
    (if accepting then [("accepting" : Text)] else []) with
  | [] => []
  | flags => " (" ++ join ", " flags ++ ")"

theorem tag_injective : ∀ initial accepting initialToo acceptingToo : Bool,
    tag initial accepting = tag initialToo acceptingToo →
      initial = initialToo ∧ accepting = acceptingToo := by
  decide

theorem heading_eq (machine : Machine) (node : Char) :
    machine.heading node = ("Node " : Text) ++
      node :: tag (machine.initial = some node) (machine.accepting.contains node) := by
  unfold heading flags tag
  simp only [decide_eq_true_eq, List.append_assoc, List.singleton_append]
  cases (if machine.initial = some node then [("initial" : Text)] else []) ++
    (if machine.accepting.contains node then [("accepting" : Text)] else []) <;> rfl

theorem heading_eq_iff {node other : Char} :
    first.heading node = second.heading other ↔
      node = other ∧ (first.initial = some node ↔ second.initial = some other) ∧
        (node ∈ first.accepting ↔ other ∈ second.accepting) := by
  rw [heading_eq, heading_eq, List.append_cancel_left_eq, List.cons.injEq,
    ← List.contains_iff_mem, ← List.contains_iff_mem, ← Bool.eq_iff_iff]
  constructor
  · rintro ⟨rfl, same⟩
    obtain ⟨initial, accepting⟩ := tag_injective _ _ _ _ same
    exact ⟨rfl, decide_eq_decide.1 initial, accepting⟩
  · rintro ⟨rfl, initial, accepting⟩
    exact ⟨rfl, by rw [decide_eq_decide.2 initial, accepting]⟩

theorem arrow_inj {symbol other : Char} {targets targetsToo : Text} :
    arrow symbol targets = arrow other targetsToo ↔ symbol = other ∧ targets = targetsToo := by
  rw [arrow, arrow, List.append_assoc, List.append_assoc, List.singleton_append,
    List.singleton_append, List.cons.injEq, List.append_cancel_left_eq]

theorem arrow_ne_noTransitions (symbol : Char) (targets : Text) :
    arrow symbol targets ≠ ("(no transitions)" : Text) := by
  intro same
  have second : some ' ' = some 'n' := congrArg (·[1]?) same
  cases second

theorem arrow_mem_map {symbols : List Char} {shown : Char → Text} {symbol : Char} {targets : Text} :
    (arrow symbol targets ∈ symbols.map fun other => arrow other (shown other)) ↔
      symbol ∈ symbols ∧ targets = shown symbol := by
  simp only [List.mem_map, arrow_inj]
  constructor
  · rintro ⟨_, member, rfl, rfl⟩
    exact ⟨member, rfl⟩
  · rintro ⟨member, rfl⟩
    exact ⟨symbol, member, rfl, rfl⟩

theorem mem_arrows_of_deterministic (isDeterministic : machine.kind = .deterministic)
    {node symbol : Char} {targets : Text} :
    arrow symbol targets ∈ machine.arrows node ↔
      symbol ∈ machine.alphabet ∧ targets = [(machine.next node symbol).getD '?'] := by
  rw [arrows, isDeterministic]
  exact arrow_mem_map

theorem mem_arrows_of_nondeterministic (isNondeterministic : machine.kind = .nondeterministic)
    {node symbol : Char} {targets : Text} :
    arrow symbol targets ∈ machine.arrows node ↔
      symbol ∈ machine.symbols ∧ machine.targets node symbol ≠ [] ∧
        targets = enumerated (machine.targets node symbol) := by
  have kept : symbol ∈ (machine.symbols.filter fun other => !(machine.targets node other).isEmpty) ↔
      symbol ∈ machine.symbols ∧ machine.targets node symbol ≠ [] := by
    rw [List.mem_filter, Bool.not_eq_true', ← Bool.not_eq_true, List.isEmpty_iff]
  rw [arrows, isNondeterministic, ← and_assoc, ← kept]
  cases machine.symbols.filter fun other => !(machine.targets node other).isEmpty with
  | nil => simp only [List.mem_singleton, arrow_ne_noTransitions, List.not_mem_nil, false_and]
  | cons c rest => exact arrow_mem_map

theorem arrow_of_mem_arrows {node : Char} {line : Text} (member : line ∈ machine.arrows node) :
    line = ("(no transitions)" : Text) ∨ ∃ symbol targets, line = arrow symbol targets := by
  unfold arrows at member
  split at member
  · obtain ⟨symbol, _, rfl⟩ := List.mem_map.1 member
    exact .inr ⟨symbol, _, rfl⟩
  · split at member
    · exact .inl (List.mem_singleton.1 member)
    · obtain ⟨symbol, _, rfl⟩ := List.mem_map.1 member
      exact .inr ⟨symbol, _, rfl⟩

/-- The edges are what the lines about them say. -/
theorem IsLawful.mem_edges_iff_arrow (lawful : machine.IsLawful) {edge : Edge} :
    edge ∈ machine.edges ↔ ∃ targets,
      arrow edge.symbol (enumerated targets) ∈ machine.arrows edge.source ∧
        edge.target ∈ targets ∧ edge.target ≠ '?' := by
  obtain ⟨source, symbol, target⟩ := edge
  have named (member : ⟨source, symbol, target⟩ ∈ machine.edges) : target ≠ '?' :=
    (lawful.legal target (lawful.edges_mem _ member).2.2).2.1
  cases kind : machine.kind with
  | deterministic =>
    have leads : ⟨source, symbol, target⟩ ∈ machine.edges ↔
        machine.next source symbol = some target :=
      (lawful.leads_iff_mem_edges _ _ _).symm.trans (lawful.next_eq_some_iff kind _ _ _).symm
    simp only [mem_arrows_of_deterministic kind]
    constructor
    · intro member
      have inAlphabet : symbol ∈ machine.alphabet :=
        lawful.symbol_mem_alphabet kind ((lawful.leads_iff_mem_edges _ _ _).2 member)
      exact ⟨[target], ⟨inAlphabet, by rw [leads.1 member]; rfl⟩, List.mem_singleton_self target,
        named member⟩
    · rintro ⟨targets, ⟨_, same⟩, inTargets, known⟩
      have only : targets = [(machine.next source symbol).getD '?'] := enumerated_injective same
      have shown : target = (machine.next source symbol).getD '?' :=
        List.mem_singleton.1 (only ▸ inTargets)
      cases found : machine.next source symbol with
      | none => exact absurd (shown.trans (by rw [found]; rfl)) known
      | some other =>
        rw [found] at shown
        exact leads.2 (found.trans (congrArg some shown.symm))
  | nondeterministic =>
    simp only [mem_arrows_of_nondeterministic kind]
    constructor
    · intro member
      have inTargets := (mem_targets machine source symbol target).2 member
      exact ⟨machine.targets source symbol,
        ⟨(lawful.edges_mem _ member).2.1, List.ne_nil_of_mem inTargets, rfl⟩, inTargets,
        named member⟩
    · rintro ⟨targets, ⟨_, _, same⟩, inTargets, _⟩
      exact (mem_targets machine source symbol target).1 (enumerated_injective same ▸ inTargets)

theorem legal_of_checkSymbols {labels : List Label} {symbols : List Char}
    (checked : checkSymbols labels = .ok symbols) : ∀ c ∈ symbols, Label.IsLegal c := by
  induction labels generalizing symbols with
  | nil =>
    cases checked
    simp
  | cons label rest ih =>
    rw [checkSymbols] at checked
    split at checked
    · cases checked
    · rename_i c accepted
      cases more : checkSymbols rest with
      | error why =>
        rw [more] at checked
        cases checked
      | ok others =>
        rw [more] at checked
        cases checked
        exact List.forall_mem_cons.2 ⟨((Label.check_eq_ok_iff label c).1 accepted).2, ih more⟩

theorem legal_of_create {kind : Kind} {alphabet : Option (List Label)}
    (created : create kind alphabet = .ok machine) : ∀ c ∈ machine.alphabet, Label.IsLegal c := by
  unfold create at created
  split at created
  · cases created
  · split at created
    · cases created
    · rename_i symbols checked
      split_ifs at created
      cases created
      exact legal_of_checkSymbols checked

theorem newline_ne_of_legal {c : Char} (legal : Label.IsLegal c) : '\n' ≠ c := by
  rintro rfl
  exact absurd legal (by decide)

/-- What building keeps: a lawful machine, in order, over legal symbols. -/
structure IsBuilt (machine : Machine) : Prop extends machine.IsLawful, machine.IsOrdered where
  symbols_legal : ∀ symbol ∈ machine.alphabet, Label.IsLegal symbol

theorem isBuilt_build {kind : Kind} {alphabet : Option (List Label)} {fresh : Machine}
    (created : create kind alphabet = .ok fresh) (steps : List BuildStep) :
    (fresh.build steps).IsBuilt where
  toIsLawful := (isLawful_of_create created).build steps
  toIsOrdered := (isOrdered_of_create created).build steps
  symbols_legal := by
    rw [alphabet_build]
    exact legal_of_create created

theorem newline_notMem_heading {node : Char} (legal : Label.IsLegal node) :
    '\n' ∉ machine.heading node := by
  have plain : ∀ initial accepting : Bool, '\n' ∉ tag initial accepting := by decide
  rw [heading_eq, List.mem_append, List.mem_cons]
  rintro (inWord | isNode | inTag)
  · exact absurd inWord (by decide)
  · exact newline_ne_of_legal legal isNode
  · exact plain _ _ inTag

theorem newline_notMem_arrow {symbol : Char} {targets : Text} (symbolLegal : Label.IsLegal symbol)
    (free : '\n' ∉ targets) : '\n' ∉ arrow symbol targets := by
  rw [arrow, List.append_assoc, List.mem_append, List.mem_append, List.mem_singleton]
  rintro (isSymbol | inSign | inTargets)
  · exact newline_ne_of_legal symbolLegal isSymbol
  · exact absurd inSign (by decide)
  · exact free inTargets

namespace IsBuilt

theorem symbol_legal (built : machine.IsBuilt) {edge : Edge} (member : edge ∈ machine.edges) :
    Label.IsLegal edge.symbol := by
  rcases built.edges_alphabet member with inAlphabet | ⟨_, isMove⟩
  · exact built.symbols_legal edge.symbol inAlphabet
  · rw [isMove]
    decide

theorem target_legal (built : machine.IsBuilt) {edge : Edge} (member : edge ∈ machine.edges) :
    Label.IsLegal edge.target :=
  built.legal edge.target (built.edges_mem edge member).2.2

theorem newline_notMem_of_mem_arrows (built : machine.IsBuilt) {node : Char} {line : Text}
    (member : line ∈ machine.arrows node) : '\n' ∉ line := by
  rcases arrow_of_mem_arrows member with rfl | ⟨symbol, targets, rfl⟩
  · decide
  · cases kind : machine.kind with
    | deterministic =>
      obtain ⟨inAlphabet, rfl⟩ := (mem_arrows_of_deterministic kind).1 member
      refine newline_notMem_arrow (built.symbols_legal symbol inAlphabet) ?_
      cases found : machine.next node symbol with
      | none => decide
      | some target =>
        have drawn := (mem_targets machine node symbol target).1 (List.mem_of_mem_head? found)
        exact fun isTarget =>
          newline_ne_of_legal (built.target_legal drawn) (List.mem_singleton.1 isTarget)
    | nondeterministic =>
      obtain ⟨_, leads, rfl⟩ := (mem_arrows_of_nondeterministic kind).1 member
      obtain ⟨target, inTargets⟩ := List.exists_mem_of_ne_nil _ leads
      have drawn := (mem_targets machine node symbol target).1 inTargets
      refine newline_notMem_arrow (built.symbol_legal drawn) fun inside => ?_
      rcases mem_of_mem_enumerated inside with between | inNames
      · exact absurd between (by decide)
      · exact newline_ne_of_legal
          (built.target_legal ((mem_targets machine node symbol '\n').1 inNames)) rfl

end IsBuilt

/-- The lines about each node, the first of which names it. -/
def blocks (machine : Machine) : List (Text × List Text) :=
  machine.nodes.map fun node => (machine.heading node, (machine.arrows node).map ('\t' :: ·))

theorem IsBuilt.pieces_describe (built : machine.IsBuilt) (known : machine.nodes ≠ []) :
    pieces '\n' machine.describe = laidOut machine.blocks := by
  have isBreak : ("\n" : Text) = ['\n'] := by decide
  rw [describe, if_neg (by simpa using known), isBreak, pieces_join_flatMap (by simpa using known),
    laidOut, blocks, List.flatMap_map, List.flatMap_map]
  refine List.flatMap_congr fun node isNode => ?_
  rw [describeNode, isBreak, pieces_join (List.cons_ne_nil _ _)]
  rintro line (_ | ⟨_, inArrows⟩)
  · exact newline_notMem_heading (built.legal node isNode)
  · obtain ⟨shown, inShown, rfl⟩ := List.mem_map.1 inArrows
    exact List.not_mem_cons_of_ne_of_not_mem (by decide) (built.newline_notMem_of_mem_arrows inShown)

theorem arePlain_blocks (machine : Machine) :
    ArePlain (fun line => line.head? ≠ some '\t') machine.blocks := by
  intro block member
  obtain ⟨node, _, rfl⟩ := List.mem_map.1 member
  constructor
  · rw [heading_eq]
    rfl
  · intro line inLines
    obtain ⟨shown, _, rfl⟩ := List.mem_map.1 inLines
    rfl

namespace IsBuilt

/-- No line about a node reads like the notice that there are none. -/
theorem nodes_eq_nil_iff (built : machine.IsBuilt) :
    machine.nodes = [] ↔ machine.describe = ("There are no nodes in this automaton." : Text) := by
  constructor
  · intro none
    rw [describe, none]
    rfl
  · intro same
    by_contra known
    obtain ⟨node, rest, nodes⟩ := List.exists_cons_of_ne_nil known
    have lines := built.pieces_describe known
    rw [same, laidOut, blocks, nodes, pieces_of_notMem (by decide), List.map_cons, List.flatMap_cons,
      List.cons_append, List.cons.injEq, heading_eq] at lines
    have starts : some 'T' = some 'N' := congrArg List.head? lines.1
    cases starts

theorem blocks_eq_of_describe_eq (built : first.IsBuilt) (builtToo : second.IsBuilt)
    (same : first.describe = second.describe) : first.blocks = second.blocks := by
  have noneTogether : first.nodes = [] ↔ second.nodes = [] := by
    rw [built.nodes_eq_nil_iff, builtToo.nodes_eq_nil_iff, same]
  by_cases none : first.nodes = []
  · rw [blocks, blocks, none, noneTogether.1 none]
    rfl
  · refine (arePlain_blocks first).eq_of_laidOut_eq (arePlain_blocks second) ?_
    rw [← built.pieces_describe none, ← builtToo.pieces_describe (none ∘ noneTogether.2), same]

/-- A machine is part of each one that is described by its lines and others. -/
theorem isPartOf_of_blocks (built : first.IsBuilt) (builtToo : second.IsBuilt)
    (within : first.blocks ⊆ second.blocks) : first.IsPartOf second := by
  have alike {node : Char} (isNode : node ∈ first.nodes) : node ∈ second.nodes ∧
      first.heading node = second.heading node ∧ first.arrows node = second.arrows node := by
    obtain ⟨other, isOther, same⟩ := List.mem_map.1 (within (List.mem_map_of_mem isNode))
    obtain ⟨heading, arrows⟩ := Prod.mk.inj same
    obtain ⟨rfl, _⟩ := heading_eq_iff.1 heading
    exact ⟨isOther, heading.symm,
      (List.map_injective_iff.2 List.cons_injective arrows).symm⟩
  constructor
  · intro start starts
    have heading := (alike (built.initial_mem start starts)).2.1
    exact (heading_eq_iff.1 heading).2.1.1 starts
  · exact fun node isNode => (alike isNode).1
  · intro node accepting
    have heading := (alike (built.accepting_mem node accepting)).2.1
    exact (heading_eq_iff.1 heading).2.2.1 accepting
  · intro edge member
    have arrows := (alike (built.edges_mem edge member).1).2.2
    rw [built.mem_edges_iff_arrow, arrows] at member
    exact builtToo.mem_edges_iff_arrow.2 member

end IsBuilt

/-- Machines that are in order are parts of each other only if their graphs are the same. -/
theorem IsPartOf.antisymm (part : first.IsPartOf second) (partToo : second.IsPartOf first)
    (ordered : first.IsOrdered) (orderedToo : second.IsOrdered) :
    first.initial = second.initial ∧ first.nodes = second.nodes ∧
      first.accepting = second.accepting ∧ first.edges = second.edges :=
  ⟨Option.ext fun start => ⟨part.initial start, partToo.initial start⟩,
    Ascending.eq_of_isAscending charBefore_strictOrder ordered.nodes orderedToo.nodes
      fun node => ⟨part.nodes node, partToo.nodes node⟩,
    Ascending.eq_of_isAscending charBefore_strictOrder ordered.accepting orderedToo.accepting
      fun node => ⟨part.accepting node, partToo.accepting node⟩,
    Ascending.eq_of_isAscending Edge.before_strictOrder ordered.edges orderedToo.edges
      fun edge => ⟨part.edges edge, partToo.edges edge⟩⟩

theorem transitions_congr (nodes : first.nodes = second.nodes) (edges : first.edges = second.edges) :
    first.transitions = second.transitions := by
  simp only [transitions, symbolsFrom, targets, edgesFrom, nodes, edges]

/-- Machines with the same description have the same graph. Not even their kinds and alphabets have to be
known. -/
theorem graph_eq_of_describe_eq {kind kindToo : Kind} {alphabet alphabetToo : Option (List Label)}
    {fresh freshToo : Machine} (created : create kind alphabet = .ok fresh)
    (createdToo : create kindToo alphabetToo = .ok freshToo) {steps stepsToo : List BuildStep}
    (same : (fresh.build steps).describe = (freshToo.build stepsToo).describe) :
    (fresh.build steps).nodes = (freshToo.build stepsToo).nodes ∧
      (fresh.build steps).initial = (freshToo.build stepsToo).initial ∧
      (fresh.build steps).accepting = (freshToo.build stepsToo).accepting ∧
      (fresh.build steps).transitions = (freshToo.build stepsToo).transitions := by
  have built := isBuilt_build created steps
  have builtToo := isBuilt_build createdToo stepsToo
  have blocks := built.blocks_eq_of_describe_eq builtToo same
  obtain ⟨initial, nodes, accepting, edges⟩ :=
    (built.isPartOf_of_blocks builtToo (blocks ▸ List.Subset.refl _)).antisymm
      (builtToo.isPartOf_of_blocks built (blocks ▸ List.Subset.refl _))
      built.toIsOrdered builtToo.toIsOrdered
  exact ⟨nodes, initial, accepting, transitions_congr nodes edges⟩

/-- Nodes and symbols that look like parts of an arrow or of a list are drawn in two orders, and a refused
step leaves no trace. -/
theorem graph_eq_of_describe_eq_signs :
    let fresh := empty .nondeterministic ['(', ',']
    let steps : List BuildStep :=
      [.node (some [',']) true, .node (some ['-']) false, .node (some ['>']) true,
        .edge (some [',']) (some ['(']) (some ['-']), .edge (some [',']) (some ['(']) (some [',']),
        .edge (some ['>']) (some ['e']) (some ['-'])]
    let stepsToo : List BuildStep :=
      [.node (some [',']) true, .node (some ['>']) false, .node (some ['-']) false,
        .edge (some [',']) (some ['(']) (some ['?']), .edge (some ['>']) (some ['e']) (some ['-']),
        .edge (some [',']) (some ['(']) (some [',']), .edge (some [',']) (some ['(']) (some ['-']),
        .accept (some ['>'])]
    create .nondeterministic (some [some ['('], some [',']]) = .ok fresh ∧
      (fresh.build steps).describe = (fresh.build stepsToo).describe ∧
      (fresh.build steps).nodes = (fresh.build stepsToo).nodes ∧
      (fresh.build steps).initial = (fresh.build stepsToo).initial ∧
      (fresh.build steps).accepting = (fresh.build stepsToo).accepting ∧
      (fresh.build steps).transitions = (fresh.build stepsToo).transitions := by
  intro fresh steps stepsToo
  have created : create .nondeterministic (some [some ['('], some [',']]) = .ok fresh := by
    decide +kernel
  have same : (fresh.build steps).describe = (fresh.build stepsToo).describe := by
    decide +kernel
  exact ⟨created, same, graph_eq_of_describe_eq created created same⟩

end Machine

end AutomataShell
