import Mathlib.Data.Char
import Mathlib.Data.List.Sort
import Mathlib.Data.Prod.Lex
import AutomataShell.Machine.Drawing
import AutomataShell.Proofs.Machine.Order

/-! The edge lines of a drawing as rows, each with the labels between two nodes. A graph has only one
list of rows, so it does not matter in which order its transitions are collected. -/

set_option autoImplicit false

namespace AutomataShell

structure Row where
  source : Char
  target : Char
  labels : List Char
  deriving DecidableEq, Repr

def Row.ends (row : Row) : Char × Char :=
  (row.source, row.target)

/-- The line of a row, with its labels between commas. -/
def Row.line (row : Row) : Text :=
  "  \x22" ++ [row.source] ++ "\x22 -> \x22" ++ [row.target] ++ "\x22 [label=\x22" ++
    Text.enumerated row.labels ++ "\x22];"

def Edge.ends (edge : Edge) : Char × Char :=
  (edge.source, edge.target)

namespace Machine

/-- The rows of a graph: ascending by source and then target, one for each two nodes with a transition
between them, and in it the symbols of these transitions as they are drawn, each as often as there are
symbols drawn so, in ascending order. -/
structure IsRows (machine : Machine) (rows : List Row) : Prop where
  ordered : rows.Pairwise fun first second => toLex first.ends < toLex second.ends
  joined : ∀ source target, (∃ row ∈ rows, row.ends = (source, target)) ↔
    ∃ symbol, machine.Leads source symbol target
  sorted : ∀ row ∈ rows, row.labels.Pairwise (· ≤ ·)
  labelled : ∀ row ∈ rows, ∃ symbols : List Char, symbols.Nodup ∧
    (∀ symbol, symbol ∈ symbols ↔ machine.Leads row.source symbol row.target) ∧
      row.labels.Perm (symbols.map machine.symbolDrawn)

variable {machine : Machine}

namespace IsRows

variable {rows others : List Row}

theorem mem_of_mem (first : machine.IsRows rows) (second : machine.IsRows others) {row : Row}
    (member : row ∈ rows) : row ∈ others := by
  have between := (first.joined row.source row.target).1 ⟨row, member, rfl⟩
  obtain ⟨other, inOthers, same⟩ := (second.joined row.source row.target).2 between
  obtain ⟨sameSource, sameTarget⟩ := Prod.mk.inj same
  obtain ⟨symbols, distinct, mem_symbols, labels⟩ := first.labelled row member
  obtain ⟨symbolsToo, distinctToo, mem_symbolsToo, labelsToo⟩ := second.labelled other inOthers
  have sameSymbols : symbols.Perm symbolsToo := by
    rw [List.perm_ext_iff_of_nodup distinct distinctToo]
    intro symbol
    rw [mem_symbols, mem_symbolsToo, sameSource, sameTarget]
  have sameLabels : row.labels = other.labels :=
    (labels.trans ((sameSymbols.map _).trans labelsToo.symm)).eq_of_pairwise'
      (first.sorted row member) (second.sorted other inOthers)
  cases row
  cases other
  cases sameSource
  cases sameTarget
  cases sameLabels
  exact inOthers

theorem nodup (isRows : machine.IsRows rows) : rows.Nodup := by
  refine isRows.ordered.imp fun {first second} less same => ?_
  rw [same] at less
  exact lt_irrefl _ less

/-- A graph has only one list of rows. -/
theorem unique (first : machine.IsRows rows) (second : machine.IsRows others) : rows = others := by
  have sameMembers : rows.Perm others :=
    (List.perm_ext_iff_of_nodup first.nodup second.nodup).2 fun _ =>
      ⟨first.mem_of_mem second, second.mem_of_mem first⟩
  refine sameMembers.eq_of_pairwise ?_ first.ordered second.ordered
  intro row other _ _ less more
  exact absurd (lt_trans less more) (lt_irrefl _)

theorem mem_labels_iff (isRows : machine.IsRows rows) {row : Row} (member : row ∈ rows)
    (label : Char) : label ∈ row.labels ↔
      ∃ symbol, machine.Leads row.source symbol row.target ∧ machine.symbolDrawn symbol = label := by
  obtain ⟨symbols, _, mem_symbols, labels⟩ := isRows.labelled row member
  simp only [labels.mem_iff, List.mem_map, mem_symbols]

theorem congr {other : Machine} (isRows : machine.IsRows rows) (kind : machine.kind = other.kind)
    (leads : ∀ source symbol target,
      machine.Leads source symbol target ↔ other.Leads source symbol target) : other.IsRows rows where
  ordered := isRows.ordered
  joined source target := by
    simp only [isRows.joined, leads]
  sorted := isRows.sorted
  labelled row member := by
    have drawn : machine.symbolDrawn = other.symbolDrawn := by
      funext symbol
      simp only [symbolDrawn, kind]
    simpa only [leads, drawn] using isRows.labelled row member

end IsRows

/-- The row that is drawn between two nodes, if there are labels for it. -/
def rowBetween (machine : Machine) (source target : Char) : Option Row :=
  match machine.labels source target with
  | [] => none
  | labels => some ⟨source, target, labels⟩

def rows (machine : Machine) : List Row :=
  machine.nodes.flatMap fun source => machine.nodes.filterMap (machine.rowBetween source)

theorem rowBetween_eq_some_iff (machine : Machine) (source target : Char) (row : Row) :
    machine.rowBetween source target = some row ↔
      machine.labels source target ≠ [] ∧ row = ⟨source, target, machine.labels source target⟩ := by
  unfold rowBetween
  cases found : machine.labels source target with
  | nil => simp
  | cons label rest => simp [eq_comm]

theorem edgeLine_eq (row : Row) : edgeLine row.source row.target row.labels = row.line := by
  delta edgeLine Row.line inQuotes
  simp only [List.append_assoc]
  rfl

theorem edgeLines_eq (machine : Machine) : machine.edgeLines = machine.rows.map Row.line := by
  simp only [edgeLines, rows, List.map_flatMap, List.map_filterMap]
  congr 1
  funext source
  congr 1
  funext target
  unfold rowBetween
  cases machine.labels source target with
  | nil => rfl
  | cons label rest => exact congrArg some (edgeLine_eq ⟨source, target, label :: rest⟩)

theorem mem_rows (machine : Machine) (row : Row) :
    row ∈ machine.rows ↔ row.source ∈ machine.nodes ∧ row.target ∈ machine.nodes ∧
      row.labels ≠ [] ∧ row.labels = machine.labels row.source row.target := by
  simp only [rows, List.mem_flatMap, List.mem_filterMap, rowBetween_eq_some_iff]
  constructor
  · rintro ⟨source, isSource, target, isTarget, some, rfl⟩
    exact ⟨isSource, isTarget, some, rfl⟩
  · rintro ⟨isSource, isTarget, some, same⟩
    exact ⟨row.source, isSource, row.target, isTarget, same ▸ some, by rw [← same]⟩

theorem labels_perm (machine : Machine) (source target : Char) :
    (machine.labels source target).Perm
      ((machine.symbolsBetween source target).map machine.symbolDrawn) :=
  Ascending.sort_perm charBefore _

theorem labels_ne_nil_iff (machine : Machine) (source target : Char) :
    machine.labels source target ≠ [] ↔ ∃ symbol, ⟨source, symbol, target⟩ ∈ machine.edges := by
  rw [ne_eq, ← List.length_eq_zero_iff, (machine.labels_perm source target).length_eq,
    List.length_map, List.length_eq_zero_iff]
  constructor
  · intro some
    obtain ⟨symbol, member⟩ := List.exists_mem_of_ne_nil _ some
    exact ⟨symbol, (mem_symbolsBetween machine source symbol target).1 member⟩
  · rintro ⟨symbol, member⟩
    exact List.ne_nil_of_mem ((mem_symbolsBetween machine source symbol target).2 member)

theorem pairwise_sort_le (labels : List Char) :
    (Ascending.sort charBefore labels).Pairwise (· ≤ ·) := by
  refine (Ascending.pairwise_sort charBefore_strictOrder labels).imp fun {first second} notBefore => ?_
  simpa [charBefore] using notBefore

theorem IsOrdered.symbolsBetween_nodup (ordered : machine.IsOrdered) (source target : Char) :
    (machine.symbolsBetween source target).Nodup := by
  unfold symbolsBetween edgesFrom
  refine List.Nodup.map_on ?_ ((ordered.edges_nodup.filter _).filter _)
  rintro ⟨s, a, t⟩ inFirst ⟨s', a', t'⟩ inSecond sameSymbol
  simp only [List.mem_filter, beq_iff_eq] at inFirst inSecond sameSymbol
  obtain ⟨⟨_, rfl⟩, rfl⟩ := inFirst
  obtain ⟨⟨_, rfl⟩, rfl⟩ := inSecond
  rw [sameSymbol]

theorem IsProper.nodes_pairwise (proper : machine.IsProper) : machine.nodes.Pairwise (· < ·) := by
  simpa [Ascending.IsAscending, charBefore] using proper.ascending

theorem isRows_rows (proper : machine.IsProper) (ordered : machine.IsOrdered) :
    machine.IsRows machine.rows where
  ordered := by
    simp only [rows, List.pairwise_flatMap, List.pairwise_filterMap, List.mem_filterMap,
      rowBetween_eq_some_iff]
    constructor
    · rintro source _
      refine proper.nodes_pairwise.imp ?_
      rintro first second less _ ⟨_, rfl⟩ _ ⟨_, rfl⟩
      exact Prod.Lex.right _ less
    · refine proper.nodes_pairwise.imp ?_
      rintro first second less _ ⟨_, _, _, rfl⟩ _ ⟨_, _, _, rfl⟩
      exact Prod.Lex.left _ _ less
  joined source target := by
    simp only [mem_rows, proper.leads_iff_mem_edges, ← labels_ne_nil_iff]
    constructor
    · rintro ⟨row, ⟨_, _, some, same⟩, ends⟩
      cases ends
      rwa [← same]
    · intro some
      obtain ⟨symbol, member⟩ := (machine.labels_ne_nil_iff source target).1 some
      obtain ⟨isSource, _, isTarget⟩ := proper.edges_mem _ member
      exact ⟨⟨source, target, machine.labels source target⟩, ⟨isSource, isTarget, some, rfl⟩, rfl⟩
  sorted row member := by
    rw [((mem_rows machine row).1 member).2.2.2]
    exact pairwise_sort_le _
  labelled row member := by
    obtain ⟨_, _, _, same⟩ := (mem_rows machine row).1 member
    refine ⟨machine.symbolsBetween row.source row.target, ordered.symbolsBetween_nodup _ _, ?_, ?_⟩
    · intro symbol
      rw [mem_symbolsBetween, proper.leads_iff_mem_edges]
    · rw [same]
      exact machine.labels_perm row.source row.target

end Machine

end AutomataShell
