import Mathlib.Data.List.Induction
import AutomataShell.Proofs.Machine.Sequence
import AutomataShell.Proofs.Machine.Soundness

/-! Arrows from one source, drawn in order. A machine takes all of them or none, and of those with the
same letter a deterministic one keeps the last. -/

set_option autoImplicit false

namespace AutomataShell.Machine

/-- Whether an edge with the symbol may be drawn: a letter of the alphabet, or the empty move where
there is one. -/
def MayRead (machine : Machine) (symbol : Char) : Prop :=
  symbol ∈ machine.alphabet ∨ machine.kind = .nondeterministic ∧ symbol = emptyMove

/-- Whether arrows from a source, each a letter with its target, fit a machine. -/
def Fits (machine : Machine) (source : Char) (arrows : List (Char × Char)) : Prop :=
  source ∈ machine.nodes ∧ ∀ arrow ∈ arrows, machine.MayRead arrow.1 ∧ arrow.2 ∈ machine.nodes

def drawAll (machine : Machine) (source : Char) (arrows : List (Char × Char)) : Machine :=
  arrows.foldl (fun drawn arrow => drawn.insertEdge ⟨source, arrow.1, arrow.2⟩) machine

/-- How a machine comes out of another one by the drawing of arrows, in order, and nothing else. -/
structure Draws (machine : Machine) (source : Char) (arrows : List (Char × Char))
    (next : Machine) : Prop where
  rest : next = { machine with edges := next.edges }
  of_nondeterministic : machine.kind = .nondeterministic → ∀ node symbol target,
    next.Leads node symbol target ↔
      machine.Leads node symbol target ∨ node = source ∧ (symbol, target) ∈ arrows
  of_deterministic : machine.kind = .deterministic → ∀ node symbol target,
    next.Leads node symbol target ↔
      node = source ∧ arrows.reverse.lookup symbol = some target ∨
        (node = source → arrows.reverse.lookup symbol = none) ∧ machine.Leads node symbol target

variable {machine last : Machine}

namespace IsLawful

theorem mem_symbols_iff (lawful : machine.IsLawful) (symbol : Char) :
    symbol ∈ machine.symbols ∧ ¬ (machine.kind = .deterministic ∧ symbol = emptyMove) ↔
      machine.MayRead symbol := by
  unfold symbols MayRead
  cases kind : machine.kind with
  | deterministic =>
    -- No deterministic machine has the letter of the empty move in its alphabet.
    simp only [reduceCtorEq, false_and, or_false, and_iff_left_iff_imp, not_and]
    rintro known _ rfl
    exact lawful.unmoving kind known
  | nondeterministic =>
    simp only [List.contains_iff_mem, reduceCtorEq, false_and, not_false_eq_true, and_true,
      true_and]
    split
    · rename_i known
      rw [or_iff_left_of_imp]
      rintro rfl
      exact known
    · simp

theorem attempt_edge_eq_ok_iff (lawful : machine.IsLawful) (source symbol target : Char) :
    machine.attempt (.edge (Label.ofChar source) (Label.ofChar symbol) (Label.ofChar target)) =
        .ok last ↔
      (source ∈ machine.nodes ∧ machine.MayRead symbol ∧ target ∈ machine.nodes) ∧
        last = machine.insertEdge ⟨source, symbol, target⟩ := by
  have checked (edge : Edge) :
      machine.checkEdge (Label.ofChar source) (Label.ofChar symbol) (Label.ofChar target) =
          .ok edge ↔
        (source ∈ machine.nodes ∧ machine.MayRead symbol ∧ target ∈ machine.nodes) ∧
          edge = ⟨source, symbol, target⟩ := by
    obtain ⟨s, a, t⟩ := edge
    rw [checkEdge_eq_ok_iff, findNode_eq_ok_iff, findNode_eq_ok_iff, findSymbol_eq_ok_iff,
      lawful.mem_symbols_iff]
    simp only [Label.ofChar, Option.some.injEq, List.cons.injEq, and_true, Edge.mk.injEq]
    constructor
    · rintro ⟨⟨rfl, inNodes⟩, ⟨rfl, inNodesToo⟩, rfl, mayRead⟩
      exact ⟨⟨inNodes, mayRead, inNodesToo⟩, rfl, rfl, rfl⟩
    · rintro ⟨⟨inNodes, mayRead, inNodesToo⟩, rfl, rfl, rfl⟩
      exact ⟨⟨rfl, inNodes⟩, ⟨rfl, inNodesToo⟩, rfl, mayRead⟩
  rw [attempt_edge]
  cases found : machine.checkEdge (Label.ofChar source) (Label.ofChar symbol)
      (Label.ofChar target) with
  | error why =>
    simp only [Except.map, reduceCtorEq, false_iff]
    rintro ⟨fits, _⟩
    rw [(checked _).2 ⟨fits, rfl⟩] at found
    cases found
  | ok edge =>
    obtain ⟨fits, rfl⟩ := (checked edge).1 found
    simp [Except.map, fits, eq_comm]

theorem insertEdge {source symbol target : Char} (lawful : machine.IsLawful)
    (fits : source ∈ machine.nodes ∧ machine.MayRead symbol ∧ target ∈ machine.nodes) :
    (machine.insertEdge ⟨source, symbol, target⟩).IsLawful :=
  lawful.attempt ((lawful.attempt_edge_eq_ok_iff source symbol target).2 ⟨fits, rfl⟩)

/-- What each arrow is checked against stays as it is while arrows are drawn. -/
theorem attemptAll_arrows_eq_ok_iff (lawful : machine.IsLawful) (source : Char)
    {arrows : List (Char × Char)} (some : arrows ≠ []) :
    machine.attemptAll (arrows.map fun arrow =>
        .edge (Label.ofChar source) (Label.ofChar arrow.1) (Label.ofChar arrow.2)) = .ok last ↔
      machine.Fits source arrows ∧ last = machine.drawAll source arrows := by
  have fits_iff : machine.Fits source arrows ↔ ∀ arrow ∈ arrows,
      source ∈ machine.nodes ∧ machine.MayRead arrow.1 ∧ arrow.2 ∈ machine.nodes := by
    constructor
    · exact fun fits arrow member => ⟨fits.1, fits.2 arrow member⟩
    · intro each
      obtain ⟨arrow, member⟩ := List.exists_mem_of_ne_nil arrows some
      exact ⟨(each arrow member).1, fun other inArrows => (each other inArrows).2⟩
  rw [fits_iff]
  clear some fits_iff
  induction arrows generalizing machine with
  | nil => simp [attemptAll, drawAll, pure, Except.pure, eq_comm]
  | cons arrow rest ih =>
    rw [List.map_cons, attemptAll_cons_eq_ok_iff, List.forall_mem_cons, and_assoc]
    constructor
    · rintro ⟨next, first, others⟩
      obtain ⟨fits, rfl⟩ := (lawful.attempt_edge_eq_ok_iff _ _ _).1 first
      exact ⟨fits, (ih (lawful.insertEdge fits)).1 others⟩
    · rintro ⟨fits, others⟩
      exact ⟨_, (lawful.attempt_edge_eq_ok_iff _ _ _).2 ⟨fits, rfl⟩,
        (ih (lawful.insertEdge fits)).2 others⟩

end IsLawful

theorem drawAll_concat (machine : Machine) (source : Char) (arrows : List (Char × Char))
    (arrow : Char × Char) :
    machine.drawAll source (arrows ++ [arrow]) =
      (machine.drawAll source arrows).insertEdge ⟨source, arrow.1, arrow.2⟩ := by
  simp [drawAll]

theorem drawAll_eq (machine : Machine) (source : Char) (arrows : List (Char × Char)) :
    machine.drawAll source arrows =
      { machine with edges := (machine.drawAll source arrows).edges } := by
  induction arrows using List.reverseRecOn with
  | nil => rfl
  | append_singleton arrows arrow ih =>
    rw [drawAll_concat, insertEdge, ih]

theorem mem_edges_drawAll_of_nondeterministic (kind : machine.kind = .nondeterministic)
    (source : Char) (arrows : List (Char × Char)) (edge : Edge) :
    edge ∈ (machine.drawAll source arrows).edges ↔
      edge ∈ machine.edges ∨ edge.source = source ∧ (edge.symbol, edge.target) ∈ arrows := by
  induction arrows using List.reverseRecOn with
  | nil => simp [drawAll]
  | append_singleton arrows arrow ih =>
    obtain ⟨node, symbol, target⟩ := edge
    have sameKind : (machine.drawAll source arrows).kind = .nondeterministic := by
      rw [drawAll_eq]
      exact kind
    rw [drawAll_concat, mem_edges_insertEdge, ih]
    simp only [sameKind, reduceCtorEq, false_implies, and_true, Edge.mk.injEq, List.mem_append,
      List.mem_singleton, Prod.ext_iff]
    tauto

/-- The last arrow with a letter counts. -/
theorem mem_edges_drawAll_of_deterministic (kind : machine.kind = .deterministic)
    (source : Char) (arrows : List (Char × Char)) (edge : Edge) :
    edge ∈ (machine.drawAll source arrows).edges ↔
      edge.source = source ∧ arrows.reverse.lookup edge.symbol = some edge.target ∨
        (edge.source = source → arrows.reverse.lookup edge.symbol = none) ∧
          edge ∈ machine.edges := by
  induction arrows using List.reverseRecOn with
  | nil => simp [drawAll]
  | append_singleton arrows arrow ih =>
    obtain ⟨node, symbol, target⟩ := edge
    obtain ⟨letter, goal⟩ := arrow
    have sameKind : (machine.drawAll source arrows).kind = .deterministic := by
      rw [drawAll_eq]
      exact kind
    rw [drawAll_concat, mem_edges_insertEdge, ih, List.reverse_concat]
    simp only [sameKind, true_implies, Edge.mk.injEq]
    by_cases isLetter : symbol = letter
    · subst isLetter
      rw [List.lookup_cons_self]
      simp only [Option.some.injEq, reduceCtorEq, imp_false, and_true]
      grind
    · have other : (symbol == letter) = false := by simpa using isLetter
      simp [List.lookup_cons, other, isLetter]

theorem draws_drawAll {source : Char} (known : source ∈ machine.nodes)
    (arrows : List (Char × Char)) : machine.Draws source arrows (machine.drawAll source arrows) := by
  have nodes : (machine.drawAll source arrows).nodes = machine.nodes := by
    rw [drawAll_eq]
  refine ⟨drawAll_eq machine source arrows, fun kind node symbol target => ?_,
    fun kind node symbol target => ?_⟩
  · rw [leads_iff, leads_iff, mem_edges_drawAll_of_nondeterministic kind, nodes, and_or_left]
    refine or_congr_right (and_iff_right_of_imp ?_)
    rintro ⟨rfl, _⟩
    exact known
  · rw [leads_iff, leads_iff, mem_edges_drawAll_of_deterministic kind, nodes, and_or_left]
    refine or_congr (and_iff_right_of_imp ?_) and_left_comm
    rintro ⟨rfl, _⟩
    exact known

end AutomataShell.Machine
