import AutomataShell.Proofs.Machine.History
import AutomataShell.Proofs.Machine.Soundness
import AutomataShell.Proofs.Machine.Walking

/-! The edges of a deterministic machine kept in slots: each node has a row of them, one for each symbol
of the alphabet and found by its index. Whatever steps are carried out, the rows hold what the edges
tell. -/

set_option autoImplicit false

namespace AutomataShell

/-- Rows of slots by node, in the order in which the nodes were added. -/
structure SlotTable where
  alphabet : List Char
  rows : List (Char × List (Option Char))

namespace SlotTable

def addRow (table : SlotTable) (node : Char) : SlotTable :=
  { table with rows := table.rows ++ [(node, table.alphabet.map fun _ => none)] }

/-- Writes the target of an edge into the slot of its symbol, over what is there. -/
def fill (table : SlotTable) (edge : Edge) : SlotTable :=
  { table with
    rows := table.rows.map fun row =>
      (row.1, if row.1 = edge.source then
        row.2.set (table.alphabet.idxOf edge.symbol) (some edge.target)
      else
        row.2) }

/-- What a step writes that is carried out. -/
def take (table : SlotTable) : BuildStep → SlotTable
  | .node (some [c]) _ => table.addRow c
  | .edge (some [source]) (some [symbol]) (some [target]) => table.fill ⟨source, symbol, target⟩
  | _ => table

def takeAll (table : SlotTable) (steps : List BuildStep) : SlotTable :=
  steps.foldl take table

variable (table : SlotTable)

def slots (node : Char) : Option (List (Option Char)) :=
  table.rows.lookup node

/-- What the slot at the index of a symbol holds. -/
def next (node symbol : Char) : Option Char :=
  match table.slots node, table.alphabet.idxOf? symbol with
  | some slots, some index => (slots[index]?).join
  | _, _ => none

/-- The empty slots, by ascending node and then by index. -/
def missing : List (Char × Char) :=
  (Ascending.ofList Machine.charBefore (table.rows.map Prod.fst)).flatMap fun node =>
    ((table.alphabet.zip ((table.slots node).getD [])).filter fun slot => slot.2.isNone).map
      fun slot => (node, slot.1)

/-- The node to which the slots lead, or the first letter for which there is none. -/
def walk : Char → Text → Except Char Char
  | node, [] => .ok node
  | node, letter :: rest =>
    match table.next node letter with
    | none => .error letter
    | some target => walk target rest

/-- The rows are those of a machine, and hold what its edges tell. -/
structure Holds (table : SlotTable) (machine : Machine) : Prop where
  alphabet : table.alphabet = machine.alphabet
  names : ∀ node, node ∈ table.rows.map Prod.fst ↔ node ∈ machine.nodes
  slots : ∀ node ∈ machine.nodes, table.slots node = some (machine.alphabet.map (machine.next node))

theorem lookup_map_value {β : Type} (change : Char → β → β) (key : Char) (rows : List (Char × β)) :
    (rows.map fun row => (row.1, change row.1 row.2)).lookup key =
      (rows.lookup key).map (change key) := by
  induction rows with
  | nil => rfl
  | cons row rest ih =>
    rw [List.map_cons, List.lookup_cons, List.lookup_cons, ih]
    by_cases same : key = row.1
    · simp [same]
    · rw [beq_eq_false_iff_ne.2 same]

end SlotTable

namespace Machine

variable {machine next : Machine} {table : SlotTable}

/-- A new edge of a deterministic machine changes where its symbol leads from its source. -/
theorem IsLawful.next_insertEdge (lawful : machine.IsLawful)
    (isDeterministic : machine.kind = .deterministic) {edge : Edge}
    (lawfulNext : (machine.insertEdge edge).IsLawful) (node : Char) :
    (machine.insertEdge edge).next node =
      if node = edge.source then
        Function.update (machine.next node) edge.symbol (some edge.target)
      else
        machine.next node := by
  funext symbol
  refine Option.ext fun target => ?_
  rw [lawfulNext.next_eq_some_iff isDeterministic, lawfulNext.leads_iff_mem_edges,
    mem_edges_insertEdge]
  have old : machine.next node symbol = some target ↔ ⟨node, symbol, target⟩ ∈ machine.edges := by
    rw [lawful.next_eq_some_iff isDeterministic, lawful.leads_iff_mem_edges]
  by_cases isSource : node = edge.source
  · subst isSource
    rw [if_pos rfl]
    by_cases isSymbol : symbol = edge.symbol
    · subst isSymbol
      obtain ⟨source, symbol, drawn⟩ := edge
      simp [isDeterministic, eq_comm]
    · rw [Function.update_of_ne isSymbol, old]
      have other : ⟨edge.source, symbol, target⟩ ≠ edge :=
        fun same => isSymbol (congrArg Edge.symbol same)
      simp [other, isSymbol]
  · rw [if_neg isSource, old]
    have other : ⟨node, symbol, target⟩ ≠ edge :=
      fun same => isSource (congrArg Edge.source same)
    simp [other, isSource]

theorem IsProper.next_of_notMem (proper : machine.IsProper) {node : Char}
    (foreign : node ∉ machine.nodes) (symbol : Char) : machine.next node symbol = none := by
  rw [Machine.next, List.head?_eq_none_iff, List.eq_nil_iff_forall_not_mem]
  intro target member
  exact foreign (proper.edges_mem _ ((mem_targets machine node symbol target).1 member)).1

end Machine

namespace SlotTable.Holds

open Machine

variable {machine next : Machine} {table : SlotTable}

theorem insertNode (holds : table.Holds machine) (proper : machine.IsProper) {c : Char}
    (new : c ∉ machine.nodes) : (table.addRow c).Holds (machine.insertNode c) where
  alphabet := holds.alphabet
  names node := by
    rw [mem_nodes_insertNode, ← holds.names]
    simp [addRow, or_comm]
  slots node member := by
    have sameNext : (machine.insertNode c).next node = machine.next node := rfl
    have sameAlphabet : (machine.insertNode c).alphabet = machine.alphabet := rfl
    rw [SlotTable.slots, addRow, List.lookup_append, sameNext, sameAlphabet]
    rcases (mem_nodes_insertNode machine c node).1 member with rfl | old
    · have unlisted : table.rows.lookup node = none := by
        refine List.lookup_eq_none_iff.2 fun row inRows => ?_
        rw [bne_iff_ne]
        rintro rfl
        exact new ((holds.names row.1).1 (List.mem_map_of_mem inRows))
      rw [unlisted, holds.alphabet]
      simp [funext (proper.next_of_notMem new)]
    · have row := holds.slots node old
      rw [SlotTable.slots] at row
      rw [row]
      rfl

theorem insertEdge (holds : table.Holds machine) (lawful : machine.IsLawful)
    (isDeterministic : machine.kind = .deterministic) {edge : Edge}
    (known : edge.symbol ∈ machine.alphabet) (lawfulNext : (machine.insertEdge edge).IsLawful) :
    (table.fill edge).Holds (machine.insertEdge edge) where
  alphabet := holds.alphabet
  names node := by
    have sameNames : (table.fill edge).rows.map Prod.fst = table.rows.map Prod.fst := by
      simp [fill]
    rw [sameNames]
    exact holds.names node
  slots node member := by
    have sameAlphabet : (machine.insertEdge edge).alphabet = machine.alphabet := rfl
    have row := holds.slots node member
    rw [SlotTable.slots] at row ⊢
    have filled := lookup_map_value (fun name slots => if name = edge.source then
      slots.set (table.alphabet.idxOf edge.symbol) (some edge.target) else slots) node table.rows
    rw [fill, filled, row, lawful.next_insertEdge isDeterministic lawfulNext, sameAlphabet,
      holds.alphabet, Option.map_some]
    by_cases isSource : node = edge.source
    · simp only [isSource, if_true]
      rw [lawful.distinct.map_update, if_pos known]
    · simp only [isSource, if_false]

theorem attempt (holds : table.Holds machine) (lawful : machine.IsLawful)
    (isDeterministic : machine.kind = .deterministic) {step : BuildStep}
    (done : machine.attempt step = .ok next) : (table.take step).Holds next := by
  have lawfulNext := lawful.attempt done
  rcases attempt_cases done with
    ⟨c, accepting, rfl, _, new, rfl⟩ | ⟨edge, rfl, _, symbol, _, rfl⟩ | ⟨c, rfl, _, rfl⟩
  · have added := holds.insertNode lawful.toIsProper new
    cases accepting
    · exact added
    · exact ⟨added.alphabet, added.names, added.slots⟩
  · have known : edge.symbol ∈ machine.alphabet := by
      rwa [symbols, isDeterministic] at symbol
    exact holds.insertEdge lawful isDeterministic known lawfulNext
  · exact ⟨holds.alphabet, holds.names, holds.slots⟩

/-- Whatever steps are tried, the rows follow those that are carried out. -/
theorem build (holds : table.Holds machine) (lawful : machine.IsLawful)
    (isDeterministic : machine.kind = .deterministic) (steps : List BuildStep) :
    (table.takeAll (machine.history steps)).Holds (machine.build steps) := by
  induction steps generalizing machine table with
  | nil => exact holds
  | cons step rest ih =>
    have onward : machine.build (step :: rest) = (machine.proceed step).build rest := rfl
    rw [onward, history]
    cases done : machine.attempt step with
    | ok next =>
      rw [proceed_of_done done]
      exact ih (holds.attempt lawful isDeterministic done) (lawful.attempt done)
        ((kind_attempt done).trans isDeterministic)
    | error why =>
      rw [proceed_of_refused done]
      exact ih holds lawful isDeterministic

theorem missing_eq (holds : table.Holds machine) (proper : machine.IsProper) :
    table.missing = machine.missing := by
  have sameNames : Ascending.ofList charBefore (table.rows.map Prod.fst) = machine.nodes :=
    Ascending.eq_of_isAscending charBefore_strictOrder
      (Ascending.isAscending_ofList charBefore_strictOrder _) proper.ascending fun node => by
        rw [Ascending.mem_ofList charBefore_strictOrder, holds.names]
  rw [SlotTable.missing, Machine.missing, sameNames]
  refine List.flatMap_congr fun node isNode => ?_
  rw [holds.slots node isNode, holds.alphabet, Option.getD_some, ← List.map_prod_left_eq_zip,
    List.filter_map, List.map_map]
  rfl

theorem next_eq (holds : table.Holds machine) (proper : machine.IsProper)
    (isDeterministic : machine.kind = .deterministic) {node : Char} (isNode : node ∈ machine.nodes)
    (symbol : Char) : table.next node symbol = machine.next node symbol := by
  rw [SlotTable.next, holds.slots node isNode, holds.alphabet]
  by_cases known : symbol ∈ machine.alphabet
  · obtain ⟨index, found⟩ := Option.isSome_iff_exists.1 (List.isSome_idxOf?.2 known)
    have same : machine.alphabet.idxOf symbol = index := by
      rw [List.idxOf_eq_getD_idxOf?, found, Option.getD_some]
    simp only [found, List.getElem?_map]
    rw [← same, List.getElem?_idxOf known]
    rfl
  · rw [List.idxOf?_eq_none_iff.2 known, proper.next_of_foreign isDeterministic known]

theorem walk_eq (holds : table.Holds machine) (proper : machine.IsProper)
    (isDeterministic : machine.kind = .deterministic) {node : Char} (isNode : node ∈ machine.nodes)
    (word : Text) : table.walk node word = machine.walk node word := by
  induction word generalizing node with
  | nil => rfl
  | cons letter rest ih =>
    rw [SlotTable.walk, Machine.walk, holds.next_eq proper isDeterministic isNode]
    cases leads : machine.next node letter with
    | none => rfl
    | some target =>
      have member := (mem_targets machine node letter target).1 (List.mem_of_mem_head? leads)
      exact ih (proper.edges_mem _ member).2.2

end SlotTable.Holds

/-- A deterministic machine whose edges are kept in slots lists the same gaps, and is walked through in
the same way. -/
theorem slots_build {alphabet : Option (List Label)} {fresh : Machine}
    (created : Machine.create .deterministic alphabet = .ok fresh) (steps : List BuildStep) :
    let machine := fresh.build steps
    let table := SlotTable.takeAll ⟨fresh.alphabet, []⟩ (fresh.history steps)
    (∀ node ∈ machine.nodes, ∃ slots, table.slots node = some slots ∧
      machine.FillsSlots node slots) ∧
      table.missing = machine.missing ∧
      ∀ node ∈ machine.nodes, ∀ word, table.walk node word = machine.walk node word := by
  intro machine table
  have lawful := Machine.isLawful_of_create created
  have isDeterministic := Machine.kind_of_create created
  have noNodes : fresh.nodes = [] := by
    obtain ⟨symbols, rfl, _⟩ := Machine.create_cases created
    rfl
  have begins : SlotTable.Holds ⟨fresh.alphabet, []⟩ fresh :=
    ⟨rfl, fun node => by simp [noNodes], fun node member => by simp [noNodes] at member⟩
  have holds : table.Holds machine := begins.build lawful isDeterministic steps
  have lawful : machine.IsLawful := lawful.build steps
  have isDeterministic : machine.kind = .deterministic :=
    (Machine.kind_build fresh steps).trans isDeterministic
  refine ⟨fun node isNode => ?_, holds.missing_eq lawful.toIsProper, fun node isNode word => ?_⟩
  · exact ⟨_, holds.slots node isNode, lawful.fillsSlots isDeterministic node⟩
  · exact holds.walk_eq lawful.toIsProper isDeterministic isNode word

end AutomataShell
