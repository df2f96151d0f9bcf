import Mathlib.Data.List.Basic
import AutomataShell.Proofs.Machine.Order

/-! A machine as the account of its history. Of all the steps that are tried on it only those that are
carried out count: they tell its nodes, its initial node, its accepting nodes and its transitions. -/

set_option autoImplicit false

namespace AutomataShell

namespace BuildStep

/-- The name of a node that is added. -/
def name? : BuildStep → Option Char
  | .node (some [c]) _ => some c
  | _ => none

def drawsEdge (source symbol : Label) : BuildStep → Bool
  | .edge s a _ => s == source && a == symbol
  | _ => false

/-- The target of an edge, if it leads there from a source along a symbol. -/
def target? (source symbol : Char) : BuildStep → Option Char
  | .edge s a (some [t]) =>
    if s = Label.ofChar source ∧ a = Label.ofChar symbol then some t else none
  | _ => none

def addsNode : BuildStep → Bool
  | .node _ _ => true
  | .edge _ _ _ | .accept _ => false

end BuildStep

/-- The step that draws an edge. -/
def Edge.step (edge : Edge) : BuildStep :=
  .edge (Label.ofChar edge.source) (Label.ofChar edge.symbol) (Label.ofChar edge.target)

/-- The targets of the edges from a source along a symbol, in the order in which they were drawn. -/
def drawn (source symbol : Char) (steps : List BuildStep) : List Char :=
  steps.filterMap (BuildStep.target? source symbol)

namespace Machine

/-- The steps that are carried out, in order. -/
def history (machine : Machine) : List BuildStep → List BuildStep
  | [] => []
  | step :: rest =>
    match machine.attempt step with
    | .ok next => step :: history next rest
    | .error _ => history machine rest

/-- The targets that the transitions list for a node and a symbol, if they have an entry there. -/
def listed (machine : Machine) (source symbol : Char) : Option (List Char) :=
  (machine.transitions.lookup source).bind fun rows => rows.lookup symbol

/-- What past steps have made of a machine, if all of them were carried out. In a deterministic machine
the latest edge from a node along a symbol has taken the place of those before it. -/
structure Reflects (machine : Machine) (past : List BuildStep) : Prop where
  nodes : ∀ c, c ∈ machine.nodes ↔ ∃ accepting, .node (Label.ofChar c) accepting ∈ past
  initial : machine.initial = (past.filterMap BuildStep.name?).head?
  accepting : ∀ c, c ∈ machine.accepting ↔
    .accept (Label.ofChar c) ∈ past ∨ .node (Label.ofChar c) true ∈ past
  gathered : machine.kind = .nondeterministic → ∀ edge, edge ∈ machine.edges ↔ edge.step ∈ past
  latest : machine.kind = .deterministic → ∀ edge, edge ∈ machine.edges ↔
    (drawn edge.source edge.symbol past).getLast? = some edge.target

theorem reflects_empty (kind : Kind) (alphabet : List Char) : (empty kind alphabet).Reflects [] := by
  constructor <;> simp [empty, drawn]

section

variable {machine : Machine} {past : List BuildStep}

theorem step_injective : Function.Injective Edge.step := by
  rintro ⟨s, a, t⟩ ⟨s', a', t'⟩ same
  simpa [Edge.step, Label.ofChar] using same

theorem drawn_concat (source symbol : Char) (step : BuildStep) :
    drawn source symbol (past ++ [step]) =
      drawn source symbol past ++ (step.target? source symbol).toList := by
  simp only [drawn, List.filterMap_append]
  cases found : step.target? source symbol <;> simp [found]

theorem target?_step (source symbol : Char) (edge : Edge) :
    edge.step.target? source symbol =
      if edge.source = source ∧ edge.symbol = symbol then some edge.target else none := by
  simp [Edge.step, BuildStep.target?, Label.ofChar]

theorem target?_eq_some_iff (step : BuildStep) (source symbol target : Char) :
    step.target? source symbol = some target ↔ step = Edge.step ⟨source, symbol, target⟩ := by
  constructor
  · intro draws
    unfold BuildStep.target? at draws
    split at draws
    · split at draws
      · rename_i same
        obtain ⟨rfl, rfl⟩ := same
        cases draws
        rfl
      · cases draws
    · cases draws
  · rintro rfl
    rw [target?_step, if_pos ⟨rfl, rfl⟩]

/-- The targets that are drawn are those of the steps that draw an edge there. -/
theorem mem_drawn (source symbol target : Char) (steps : List BuildStep) :
    target ∈ drawn source symbol steps ↔ Edge.step ⟨source, symbol, target⟩ ∈ steps := by
  simp [drawn, target?_eq_some_iff]

namespace Reflects

theorem insertNode (reflects : machine.Reflects past) (c : Char) (accepting : Bool) :
    Reflects (if accepting then (machine.insertNode c).insertAccepting c else machine.insertNode c)
      (past ++ [.node (Label.ofChar c) accepting]) where
  nodes d := by
    have added : d ∈ (if accepting then (machine.insertNode c).insertAccepting c
        else machine.insertNode c).nodes ↔ d = c ∨ d ∈ machine.nodes := by
      cases accepting <;> exact mem_nodes_insertNode machine c d
    rw [added, reflects.nodes]
    cases accepting <;> simp [Label.ofChar, or_comm, or_left_comm, or_assoc]
  initial := by
    have starts : (if accepting then (machine.insertNode c).insertAccepting c
        else machine.insertNode c).initial = machine.initial.or (some c) := by
      cases accepting <;> rfl
    rw [starts, reflects.initial]
    simp [BuildStep.name?, Label.ofChar]
  accepting d := by
    cases accepting with
    | false => exact (reflects.accepting d).trans (by simp)
    | true =>
      have added : d ∈ ((machine.insertNode c).insertAccepting c).accepting ↔
          d = c ∨ d ∈ machine.accepting :=
        mem_accepting_insertAccepting (machine.insertNode c) c d
      simp only [if_true]
      rw [added, reflects.accepting]
      simp [Label.ofChar, or_comm, or_left_comm]
  gathered isNondeterministic edge := by
    cases accepting <;>
      exact (reflects.gathered isNondeterministic edge).trans (by simp [Edge.step])
  latest isDeterministic edge := by
    cases accepting <;>
      exact (reflects.latest isDeterministic edge).trans
        (by simp [drawn_concat, BuildStep.target?])

theorem insertEdge (reflects : machine.Reflects past) (edge : Edge) :
    (machine.insertEdge edge).Reflects (past ++ [edge.step]) where
  nodes c := (reflects.nodes c).trans (by simp [Edge.step])
  initial := reflects.initial.trans (by simp [Edge.step, BuildStep.name?])
  accepting c := (reflects.accepting c).trans (by simp [Edge.step])
  gathered kind other := by
    have isNondeterministic : machine.kind = .nondeterministic := kind
    rw [mem_edges_insertEdge, reflects.gathered isNondeterministic]
    simp [isNondeterministic, step_injective.eq_iff, or_comm]
  latest kind other := by
    have isDeterministic : machine.kind = .deterministic := kind
    rw [mem_edges_insertEdge, reflects.latest isDeterministic, drawn_concat, target?_step]
    by_cases same : edge.source = other.source ∧ edge.symbol = other.symbol
    · -- The new edge is the latest one from its source along its symbol.
      obtain ⟨s, a, t⟩ := other
      obtain ⟨rfl, rfl⟩ := same
      obtain ⟨s, a, u⟩ := edge
      simpa [isDeterministic] using eq_comm
    · have different : other ≠ edge := by
        rintro rfl
        exact same ⟨rfl, rfl⟩
      have apart : ¬ (other.source = edge.source ∧ other.symbol = edge.symbol) :=
        fun alike => same ⟨alike.1.symm, alike.2.symm⟩
      simp only [different, false_or, isDeterministic, apart, not_false_eq_true, imp_self, and_true,
        if_neg same, Option.toList_none, List.append_nil]

theorem insertAccepting (reflects : machine.Reflects past) (c : Char) :
    (machine.insertAccepting c).Reflects (past ++ [.accept (Label.ofChar c)]) where
  nodes d := (reflects.nodes d).trans (by simp)
  initial := reflects.initial.trans (by simp [BuildStep.name?])
  accepting d := by
    rw [mem_accepting_insertAccepting, reflects.accepting]
    simp [Label.ofChar, or_comm, or_assoc]
  gathered isNondeterministic edge :=
    (reflects.gathered isNondeterministic edge).trans (by simp [Edge.step])
  latest isDeterministic edge :=
    (reflects.latest isDeterministic edge).trans (by simp [drawn_concat, BuildStep.target?])

theorem attempt (reflects : machine.Reflects past) {next : Machine} {step : BuildStep}
    (done : machine.attempt step = .ok next) : next.Reflects (past ++ [step]) := by
  rcases attempt_cases done with
    ⟨c, accepting, rfl, _, _, rfl⟩ | ⟨edge, rfl, _, _, _, rfl⟩ | ⟨c, rfl, _, rfl⟩
  · exact reflects.insertNode c accepting
  · exact reflects.insertEdge edge
  · exact reflects.insertAccepting c

/-- Steps that are refused leave no trace. -/
theorem build (reflects : machine.Reflects past) (steps : List BuildStep) :
    (machine.build steps).Reflects (past ++ machine.history steps) := by
  induction steps generalizing machine past with
  | nil => simpa [Machine.build, history] using reflects
  | cons step rest ih =>
    have onward : machine.build (step :: rest) = (machine.proceed step).build rest := rfl
    rw [onward, history]
    cases done : machine.attempt step with
    | error why =>
      rw [proceed_of_refused done]
      exact ih reflects
    | ok next =>
      rw [proceed_of_done done]
      have further := ih (reflects.attempt done)
      rwa [List.append_assoc, List.singleton_append] at further

end Reflects

theorem reflects_of_create {kind : Kind} {alphabet : Option (List Label)}
    (created : create kind alphabet = .ok machine) : machine.Reflects [] := by
  obtain ⟨symbols, rfl, _⟩ := create_cases created
  exact reflects_empty kind symbols

/-- Without the steps that are refused, the others are carried out as before. -/
theorem build_history (machine : Machine) (steps : List BuildStep) :
    machine.build (machine.history steps) = machine.build steps := by
  induction steps generalizing machine with
  | nil => rfl
  | cons step rest ih =>
    have onward : machine.build (step :: rest) = (machine.proceed step).build rest := rfl
    rw [onward, history]
    cases done : machine.attempt step with
    | error why =>
      rw [proceed_of_refused done]
      exact ih machine
    | ok next =>
      have first : machine.build (step :: next.history rest) = next.build (next.history rest) := by
        rw [← proceed_of_done done]
        rfl
      rw [proceed_of_done done]
      exact first.trans (ih next)

theorem targets_ne_nil_iff (machine : Machine) (source symbol : Char) :
    machine.targets source symbol ≠ [] ↔ symbol ∈ machine.symbolsFrom source := by
  rw [mem_symbolsFrom]
  constructor
  · intro some
    obtain ⟨target, member⟩ := List.exists_mem_of_ne_nil _ some
    exact ⟨target, (mem_targets machine source symbol target).1 member⟩
  · rintro ⟨target, member⟩
    exact List.ne_nil_of_mem ((mem_targets machine source symbol target).2 member)

/-- The entry for a node and a symbol lists the targets there, and there is none without a target. -/
theorem IsProper.listed_eq (proper : machine.IsProper) (source symbol : Char) :
    machine.listed source symbol =
      if machine.targets source symbol = [] then none else some (machine.targets source symbol) := by
  split
  · rename_i none
    rw [Option.eq_none_iff_forall_ne_some]
    intro entry found
    -- Every entry is for a symbol on an edge.
    obtain ⟨rows, foundRows, foundEntry⟩ := Option.bind_eq_some_iff.1 found
    obtain ⟨_, _, split, _⟩ := List.lookup_eq_some_iff.1 foundRows
    have inTransitions : (source, rows) ∈ machine.transitions := by simp [split]
    obtain ⟨node, _, sameRow⟩ := List.mem_map.1 inTransitions
    cases sameRow
    obtain ⟨_, _, split, _⟩ := List.lookup_eq_some_iff.1 foundEntry
    have inRows : (symbol, entry) ∈ (machine.symbolsFrom source).map
        fun symbol => (symbol, machine.targets source symbol) := by simp [split]
    obtain ⟨label, onEdge, sameEntry⟩ := List.mem_map.1 inRows
    cases sameEntry
    exact (targets_ne_nil_iff machine source symbol).2 onEdge none
  · rename_i some
    have onEdge := (targets_ne_nil_iff machine source symbol).1 some
    obtain ⟨target, member⟩ := (mem_symbolsFrom machine source symbol).1 onEdge
    unfold listed transitions
    rw [List.lookup_graph _ (proper.edges_mem _ member).1]
    exact List.lookup_graph _ onEdge

/-- A deterministic machine leads along a symbol to where the latest edge does. -/
theorem Reflects.targets_eq (reflects : machine.Reflects past) (ordered : machine.IsOrdered)
    (isDeterministic : machine.kind = .deterministic) (source symbol : Char) :
    machine.targets source symbol = (drawn source symbol past).getLast?.toList := by
  have leads (target : Char) : target ∈ machine.targets source symbol ↔
      (drawn source symbol past).getLast? = some target := by
    rw [mem_targets, reflects.latest isDeterministic]
  have distinct := ordered.targets_nodup source symbol
  cases last : (drawn source symbol past).getLast? with
  | none =>
    rw [Option.toList_none, List.eq_nil_iff_forall_not_mem]
    intro target member
    have found := (leads target).1 member
    rw [last] at found
    cases found
  | some target =>
    rw [Option.toList_some, ← List.perm_singleton,
      List.perm_ext_iff_of_nodup distinct (List.nodup_singleton target)]
    intro other
    rw [leads, last, Option.some.injEq, List.mem_singleton, eq_comm]

/-- Whether a step that adds no node is carried out depends on the nodes and symbols alone. -/
theorem isOk_attempt_congr {first second : Machine} (kind : first.kind = second.kind)
    (alphabet : first.alphabet = second.alphabet) (nodes : first.nodes = second.nodes)
    {step : BuildStep} (noNode : step.addsNode = false) :
    (first.attempt step).isOk = (second.attempt step).isOk := by
  obtain ⟨_, _, _, start, accepting, edges⟩ := first
  obtain ⟨_, _, _, start', accepting', edges'⟩ := second
  cases kind
  cases alphabet
  cases nodes
  rename_i kind alphabet nodes
  cases step with
  | node => cases noNode
  | edge source symbol target =>
    have checks : checkEdge ⟨kind, alphabet, nodes, start, accepting, edges⟩ source symbol target =
        checkEdge ⟨kind, alphabet, nodes, start', accepting', edges'⟩ source symbol target := rfl
    simp only [attempt_edge, checks]
    generalize checkEdge _ source symbol target = checked
    cases checked <;> rfl
  | accept name =>
    have finds : findNode ⟨kind, alphabet, nodes, start, accepting, edges⟩ name =
        findNode ⟨kind, alphabet, nodes, start', accepting', edges'⟩ name := rfl
    simp only [attempt_accept, finds]
    generalize findNode _ name = found
    cases found <;> rfl

theorem nodes_attempt {next : Machine} {step : BuildStep} (done : machine.attempt step = .ok next)
    (noNode : step.addsNode = false) : next.nodes = machine.nodes := by
  rcases attempt_cases done with ⟨_, _, rfl, _⟩ | ⟨_, _, _, _, _, rfl⟩ | ⟨_, _, _, rfl⟩
  · cases noNode
  · rfl
  · rfl

theorem history_of_noNodes {steps : List BuildStep}
    (noNodes : ∀ step ∈ steps, step.addsNode = false) :
    machine.history steps = steps.filter fun step => (machine.attempt step).isOk := by
  -- No step changes what decides on the others.
  suffices among : ∀ reached : Machine, reached.kind = machine.kind →
      reached.alphabet = machine.alphabet → reached.nodes = machine.nodes →
        reached.history steps = steps.filter fun step => (machine.attempt step).isOk by
    exact among machine rfl rfl rfl
  induction steps with
  | nil => exact fun _ _ _ _ => rfl
  | cons step rest ih =>
    intro reached kind alphabet nodes
    have noNode := noNodes step List.mem_cons_self
    have ih := ih fun next member => noNodes next (List.mem_cons_of_mem step member)
    rw [history, List.filter_cons, ← isOk_attempt_congr kind alphabet nodes noNode]
    cases done : reached.attempt step with
    | error why => exact ih reached kind alphabet nodes
    | ok next =>
      refine congrArg (step :: ·) (ih next ((kind_attempt done).trans kind) ?_ ?_)
      · exact (alphabet_attempt done).trans alphabet
      · exact (nodes_attempt done noNode).trans nodes

theorem name?_of_noNode {step : BuildStep} (noNode : step.addsNode = false) : step.name? = none := by
  cases step with
  | node => cases noNode
  | edge | accept => rfl

/-- Only the edges from the source along the symbol matter. -/
theorem drawn_filter (source symbol : Char) (steps : List BuildStep) :
    drawn source symbol (steps.filter
      (BuildStep.drawsEdge (Label.ofChar source) (Label.ofChar symbol))) =
        drawn source symbol steps := by
  unfold drawn
  rw [List.filterMap_filter]
  refine List.filterMap_congr fun step _ => ?_
  split
  · rfl
  · rename_i elsewhere
    cases draws : step.target? source symbol with
    | none => rfl
    | some target =>
      rw [(target?_eq_some_iff step source symbol target).1 draws] at elsewhere
      exact absurd (by simp [Edge.step, BuildStep.drawsEdge]) elsewhere

/-- Edges and accepting nodes come to the same in any order, as long as a deterministic machine gets
the edges from a source along a symbol in turn. -/
theorem Reflects.build_perm (reflects : machine.Reflects past) (ordered : machine.IsOrdered)
    {steps other : List BuildStep} (reordered : steps.Perm other)
    (noNodes : ∀ step ∈ steps, step.addsNode = false)
    (inTurn : machine.kind = .deterministic → ∀ source symbol,
      steps.filter (BuildStep.drawsEdge source symbol) =
        other.filter (BuildStep.drawsEdge source symbol)) :
    machine.build steps = machine.build other := by
  let carriedOut (step : BuildStep) : Bool := (machine.attempt step).isOk
  have noNodesToo : ∀ step ∈ other, step.addsNode = false :=
    fun step member => noNodes step (reordered.mem_iff.2 member)
  have reflectsFirst : (machine.build steps).Reflects (past ++ steps.filter carriedOut) :=
    history_of_noNodes noNodes ▸ reflects.build steps
  have reflectsSecond : (machine.build other).Reflects (past ++ other.filter carriedOut) :=
    history_of_noNodes noNodesToo ▸ reflects.build other
  have sameMembers (step : BuildStep) :
      step ∈ past ++ steps.filter carriedOut ↔ step ∈ past ++ other.filter carriedOut := by
    rw [List.mem_append, List.mem_append, (reordered.filter carriedOut).mem_iff]
  have unnamed {list : List BuildStep} (noNodes : ∀ step ∈ list, step.addsNode = false) :
      (list.filter carriedOut).filterMap BuildStep.name? = [] :=
    List.filterMap_eq_nil_iff.2 fun step member =>
      name?_of_noNode (noNodes step (List.mem_filter.1 member).1)
  apply (ordered.build steps).ext (ordered.build other)
  · rw [kind_build, kind_build]
  · rw [alphabet_build, alphabet_build]
  · rw [reflectsFirst.initial, reflectsSecond.initial, List.filterMap_append,
      List.filterMap_append, unnamed noNodes, unnamed noNodesToo]
  · intro c
    simp only [reflectsFirst.nodes, reflectsSecond.nodes, sameMembers]
  · intro c
    simp only [reflectsFirst.accepting, reflectsSecond.accepting, sameMembers]
  · intro edge
    cases isKind : machine.kind with
    | nondeterministic =>
      rw [reflectsFirst.gathered ((kind_build _ _).trans isKind),
        reflectsSecond.gathered ((kind_build _ _).trans isKind), sameMembers]
    | deterministic =>
      have sameDrawn (source symbol : Char) :
          drawn source symbol (steps.filter carriedOut) =
            drawn source symbol (other.filter carriedOut) := by
        rw [← drawn_filter, ← drawn_filter source symbol (other.filter carriedOut),
          List.filter_comm, inTurn isKind, List.filter_comm]
      have split (source symbol : Char) (list : List BuildStep) :
          drawn source symbol (past ++ list) =
            drawn source symbol past ++ drawn source symbol list :=
        List.filterMap_append
      rw [reflectsFirst.latest ((kind_build _ _).trans isKind),
        reflectsSecond.latest ((kind_build _ _).trans isKind), split, split, sameDrawn]

end

/-- The steps that are carried out determine the machine. They tell its nodes, of which the first is the
initial one, its accepting nodes and its transitions, where a deterministic machine goes by the latest
edge. Once the nodes are there, edges and accepting nodes may come in any order, but for edges of a
deterministic machine from one source along one symbol. -/
theorem build_of_history {kind : Kind} {alphabet : Option (List Label)} {fresh : Machine}
    (created : create kind alphabet = .ok fresh) (steps : List BuildStep) :
    let machine := fresh.build steps
    let past := fresh.history steps
    fresh.build past = machine ∧
      (∀ c, c ∈ machine.nodes ↔ ∃ accepting, .node (Label.ofChar c) accepting ∈ past) ∧
      machine.initial = (past.filterMap BuildStep.name?).head? ∧
      (∀ c, c ∈ machine.accepting ↔
        .accept (Label.ofChar c) ∈ past ∨ .node (Label.ofChar c) true ∈ past) ∧
      (kind = .nondeterministic → ∀ source symbol target,
        (∃ targets, machine.listed source symbol = some targets ∧ target ∈ targets) ↔
          .edge (Label.ofChar source) (Label.ofChar symbol) (Label.ofChar target) ∈ past) ∧
      (kind = .deterministic → ∀ source symbol, machine.listed source symbol =
        (drawn source symbol past).getLast?.map fun target => [target]) ∧
      ∀ later other, later.Perm other → (∀ step ∈ later, step.addsNode = false) →
        (kind = .deterministic → ∀ source symbol,
          later.filter (BuildStep.drawsEdge source symbol) =
            other.filter (BuildStep.drawsEdge source symbol)) →
          machine.build later = machine.build other := by
  intro machine past
  have sameKind : machine.kind = kind := (kind_build _ _).trans (kind_of_create created)
  have proper : machine.IsProper := (isProper_of_create created).build steps
  have ordered : machine.IsOrdered := (isOrdered_of_create created).build steps
  have reflects : machine.Reflects past := (reflects_of_create created).build steps
  refine ⟨build_history fresh steps, reflects.nodes, reflects.initial, reflects.accepting, ?_, ?_, ?_⟩
  · intro isNondeterministic source symbol target
    have drew : (⟨source, symbol, target⟩ : Edge) ∈ machine.edges ↔
        .edge (Label.ofChar source) (Label.ofChar symbol) (Label.ofChar target) ∈ past :=
      reflects.gathered (sameKind.trans isNondeterministic) _
    rw [← drew, ← mem_targets, proper.listed_eq]
    split
    · rename_i none
      simp [none]
    · simp
  · intro isDeterministic source symbol
    rw [proper.listed_eq, reflects.targets_eq ordered (sameKind.trans isDeterministic)]
    cases (drawn source symbol past).getLast? <;> rfl
  · intro later other reordered noNodes inTurn
    exact reflects.build_perm ordered reordered noNodes fun kind => inTurn (sameKind.symm.trans kind)

/-- Two nodes, and two edges from the first along the same symbol with a refused one in between. -/
def stepsToRedraw : List BuildStep :=
  [.node (Label.ofChar 'x') true, .node (Label.ofChar 'y') false,
    .edge (Label.ofChar 'x') (Label.ofChar 'a') (Label.ofChar 'y'),
    .edge (Label.ofChar 'x') (Label.ofChar 'a') (Label.ofChar 'z'),
    .edge (Label.ofChar 'x') (Label.ofChar 'a') (Label.ofChar 'x')]

/-- The latest edge counts. Those that follow may be drawn in either order. -/
theorem build_of_history_redrawn :
    create .deterministic (some [Label.ofChar 'a', Label.ofChar 'b']) =
        .ok (empty .deterministic ['a', 'b']) ∧
      ((empty .deterministic ['a', 'b']).build stepsToRedraw).listed 'x' 'a' = some ['x'] ∧
      let along (symbol target : Char) : BuildStep :=
        .edge (Label.ofChar 'x') (Label.ofChar symbol) (Label.ofChar target)
      ((empty .deterministic ['a', 'b']).build stepsToRedraw).build
          [along 'a' 'y', .accept (Label.ofChar 'y'), along 'b' 'y'] =
        ((empty .deterministic ['a', 'b']).build stepsToRedraw).build
          [along 'b' 'y', along 'a' 'y', .accept (Label.ofChar 'y')] := by
  have created : create .deterministic (some [Label.ofChar 'a', Label.ofChar 'b']) =
      .ok (empty .deterministic ['a', 'b']) := by
    decide
  obtain ⟨_, _, _, _, _, latest, inAnyOrder⟩ := build_of_history created stepsToRedraw
  refine ⟨created, ?_, inAnyOrder _ _ (by decide) (by decide) fun _ source symbol => ?_⟩
  · rw [latest rfl]
    decide
  · -- The edges are along different symbols, so for none of them there is an order to keep.
    by_cases isFirst : symbol = Label.ofChar 'a'
    · subst isFirst
      simp [BuildStep.drawsEdge, Label.ofChar, List.filter_cons]
    · have passed : (Label.ofChar 'a' == symbol) = false := by
        simpa using fun same => isFirst same.symm
      simp [BuildStep.drawsEdge, List.filter_cons, passed]

end Machine

end AutomataShell
