import AutomataShell.Machine.Ascending
import AutomataShell.Text.Basic

/-! Finite automata as labelled graphs over characters. Nodes, accepting nodes and edges are kept in
ascending order, so machines with the same graph are equal. -/

set_option autoImplicit false

namespace AutomataShell

inductive Kind where
  | deterministic
  | nondeterministic
  deriving DecidableEq, Repr

namespace Kind

def name : Kind → Text
  | .deterministic => "dfa"
  | .nondeterministic => "nfa"

/-- The kind of a name in lower case. -/
def ofName (name : Text) : Option Kind :=
  [Kind.deterministic, .nondeterministic].find? fun kind => kind.name == name

theorem ofName_name (kind : Kind) : ofName kind.name = some kind := by
  cases kind <;> decide

end Kind

structure Edge where
  source : Char
  symbol : Char
  target : Char
  deriving DecidableEq, Repr

/-- By source, then symbol, then target. -/
def Edge.before (left right : Edge) : Bool :=
  left.source < right.source || left.source == right.source &&
    (left.symbol < right.symbol || left.symbol == right.symbol && left.target < right.target)

theorem Edge.before_iff (left right : Edge) :
    left.before right = true ↔
      left.source < right.source ∨ left.source = right.source ∧
        (left.symbol < right.symbol ∨
          left.symbol = right.symbol ∧ left.target < right.target) := by
  simp [Edge.before]

theorem Edge.before_strictOrder : Ascending.StrictOrder Edge.before where
  irrefl edge := by simp [Edge.before]
  trans x y z first second := by
    rw [Edge.before_iff] at first second ⊢
    rcases first with first | ⟨sameSource, first⟩
    · rcases second with second | ⟨sameSource, _⟩
      · exact Or.inl (Char.lt_trans first second)
      · exact Or.inl (sameSource ▸ first)
    · rw [sameSource]
      rcases second with second | ⟨sameNext, second⟩
      · exact Or.inl second
      · refine Or.inr ⟨sameNext, ?_⟩
        rcases first with first | ⟨sameSymbol, first⟩
        · rcases second with second | ⟨sameSymbol, _⟩
          · exact Or.inl (Char.lt_trans first second)
          · exact Or.inl (sameSymbol ▸ first)
        · rw [sameSymbol]
          rcases second with second | ⟨sameLast, second⟩
          · exact Or.inl second
          · exact Or.inr ⟨sameLast, Char.lt_trans first second⟩
  total x y notBefore notAfter := by
    rw [← Bool.not_eq_true, Edge.before_iff] at notBefore notAfter
    have equal {a b : Char} (notLess : ¬ a < b) (notMore : ¬ b < a) : a = b :=
      Char.le_antisymm (Char.not_lt.1 notMore) (Char.not_lt.1 notLess)
    have sources : x.source = y.source :=
      equal (fun less => notBefore (Or.inl less)) fun more => notAfter (Or.inl more)
    have symbols : x.symbol = y.symbol :=
      equal (fun less => notBefore (Or.inr ⟨sources, Or.inl less⟩)) fun more =>
        notAfter (Or.inr ⟨sources.symm, Or.inl more⟩)
    have targets : x.target = y.target :=
      equal (fun less => notBefore (Or.inr ⟨sources, Or.inr ⟨symbols, less⟩⟩)) fun more =>
        notAfter (Or.inr ⟨sources.symm, Or.inr ⟨symbols.symm, more⟩⟩)
    cases x
    cases y
    simp_all

structure Machine where
  kind : Kind
  alphabet : List Char
  nodes : List Char
  initial : Option Char
  accepting : List Char
  edges : List Edge
  deriving DecidableEq, Repr

/-- The letter that stands for an empty move in a nondeterministic machine. -/
def emptyMove : Char := 'e'

namespace Machine

/-- Ascending order of characters by code point. -/
def charBefore (left right : Char) : Bool :=
  left < right

theorem charBefore_strictOrder : Ascending.StrictOrder charBefore where
  irrefl c := by simp [charBefore]
  trans x y z first second := by
    simp only [charBefore, decide_eq_true_eq] at first second ⊢
    exact Char.lt_trans first second
  total x y notBefore notAfter := by
    simp only [charBefore, decide_eq_false_iff_not, Char.not_lt] at notBefore notAfter
    exact Char.le_antisymm notAfter notBefore

def insertNode (machine : Machine) (name : Char) : Machine :=
  { machine with
    nodes := Ascending.insert charBefore name machine.nodes
    initial := machine.initial.or (some name) }

def insertAccepting (machine : Machine) (name : Char) : Machine :=
  { machine with accepting := Ascending.insert charBefore name machine.accepting }

/-- Adds an edge. A deterministic machine keeps one edge for a source and a symbol, the latest. -/
def insertEdge (machine : Machine) (edge : Edge) : Machine :=
  let kept :=
    match machine.kind with
    | .deterministic =>
      machine.edges.filter fun old => !(old.source == edge.source && old.symbol == edge.symbol)
    | .nondeterministic => machine.edges
  { machine with edges := Ascending.insert Edge.before edge kept }

/-- The symbols that an edge may carry, in the order in which descriptions list them. -/
def symbols (machine : Machine) : List Char :=
  match machine.kind with
  | .deterministic => machine.alphabet
  | .nondeterministic =>
    if machine.alphabet.contains emptyMove then
      machine.alphabet
    else
      machine.alphabet ++ [emptyMove]

def edgesFrom (machine : Machine) (source : Char) : List Edge :=
  machine.edges.filter fun edge => edge.source == source

/-- The nodes that an edge with the symbol leads to, in ascending order. -/
def targets (machine : Machine) (source symbol : Char) : List Char :=
  ((machine.edgesFrom source).filter fun edge => edge.symbol == symbol).map Edge.target

/-- The symbols on the edges between two nodes, in ascending order. -/
def symbolsBetween (machine : Machine) (source target : Char) : List Char :=
  ((machine.edgesFrom source).filter fun edge => edge.target == target).map Edge.symbol

/-- The symbols on the edges from a node, ascending and each once. -/
def symbolsFrom (machine : Machine) (source : Char) : List Char :=
  Ascending.ofList charBefore ((machine.edgesFrom source).map Edge.symbol)

/-- For each node its symbols, and for each symbol its targets, all in ascending order. -/
def transitions (machine : Machine) : List (Char × List (Char × List Char)) :=
  machine.nodes.map fun node =>
    (node, (machine.symbolsFrom node).map fun symbol => (symbol, machine.targets node symbol))

theorem mem_nodes_insertNode (machine : Machine) (name node : Char) :
    node ∈ (machine.insertNode name).nodes ↔ node = name ∨ node ∈ machine.nodes :=
  Ascending.mem_insert charBefore_strictOrder name node machine.nodes

theorem mem_accepting_insertAccepting (machine : Machine) (name node : Char) :
    node ∈ (machine.insertAccepting name).accepting ↔ node = name ∨ node ∈ machine.accepting :=
  Ascending.mem_insert charBefore_strictOrder name node machine.accepting

/-- A new edge of a deterministic machine takes the place of one with its source and symbol. -/
theorem mem_edges_insertEdge (machine : Machine) (edge old : Edge) :
    old ∈ (machine.insertEdge edge).edges ↔
      old = edge ∨ old ∈ machine.edges ∧
        (machine.kind = .deterministic →
          ¬ (old.source = edge.source ∧ old.symbol = edge.symbol)) := by
  unfold insertEdge
  cases kind : machine.kind with
  | deterministic =>
    simp only [Ascending.mem_insert Edge.before_strictOrder, List.mem_filter]
    simp [Decidable.imp_iff_not_or]
  | nondeterministic =>
    simp only [Ascending.mem_insert Edge.before_strictOrder]
    simp

theorem mem_targets (machine : Machine) (source symbol target : Char) :
    target ∈ machine.targets source symbol ↔ ⟨source, symbol, target⟩ ∈ machine.edges := by
  simp only [targets, edgesFrom, List.mem_map, List.mem_filter, beq_iff_eq]
  constructor
  · rintro ⟨edge, ⟨⟨member, rfl⟩, rfl⟩, rfl⟩
    exact member
  · intro member
    exact ⟨⟨source, symbol, target⟩, ⟨⟨member, rfl⟩, rfl⟩, rfl⟩

theorem mem_symbolsBetween (machine : Machine) (source symbol target : Char) :
    symbol ∈ machine.symbolsBetween source target ↔ ⟨source, symbol, target⟩ ∈ machine.edges := by
  simp only [symbolsBetween, edgesFrom, List.mem_map, List.mem_filter, beq_iff_eq]
  constructor
  · rintro ⟨edge, ⟨⟨member, rfl⟩, rfl⟩, rfl⟩
    exact member
  · intro member
    exact ⟨⟨source, symbol, target⟩, ⟨⟨member, rfl⟩, rfl⟩, rfl⟩

end Machine

end AutomataShell
