import AutomataShell.Proofs.Drawing.Rows

/-! The transitions of a graph collected one by one, each label with those between the same two nodes,
and put in order at the end. From whatever list of the transitions this starts, the rows of the graph
come out. -/

set_option autoImplicit false

namespace AutomataShell

namespace Row

/-- Puts the labels in ascending order. -/
def arranged (row : Row) : Row :=
  { row with labels := Ascending.sort Machine.charBefore row.labels }

/-- Puts rows in ascending order, by source and then target. -/
def inOrder (rows : List Row) : List Row :=
  rows.mergeSort fun first second => toLex first.ends ≤ toLex second.ends

theorem inOrder_perm (rows : List Row) : (inOrder rows).Perm rows :=
  rows.mergeSort_perm _

theorem pairwise_inOrder {rows : List Row} (distinct : (rows.map ends).Nodup) :
    (inOrder rows).Pairwise fun first second => toLex first.ends < toLex second.ends := by
  have apart : (inOrder rows).Pairwise fun first second => first.ends ≠ second.ends := by
    rw [← List.pairwise_map]
    exact ((inOrder_perm rows).map ends).nodup_iff.2 distinct
  have below : (inOrder rows).Pairwise fun first second =>
      decide (toLex first.ends ≤ toLex second.ends) = true := by
    apply List.pairwise_mergeSort
    · intro first second third
      simpa using le_trans
    · intro first second
      simpa using le_total (toLex first.ends) (toLex second.ends)
  refine (below.and apart).imp fun {first second} both => ?_
  exact lt_of_le_of_ne (of_decide_eq_true both.1) both.2

end Row

namespace Machine

variable {machine : Machine}

/-- Adds the label of an edge to the row between its ends, or begins a new row. -/
def gather (machine : Machine) : List Row → Edge → List Row
  | [], edge => [⟨edge.source, edge.target, [machine.symbolDrawn edge.symbol]⟩]
  | row :: rest, edge =>
    if row.ends = edge.ends then
      { row with labels := row.labels ++ [machine.symbolDrawn edge.symbol] } :: rest
    else
      row :: machine.gather rest edge

def collect (machine : Machine) (edges : List Edge) : List Row :=
  (Row.inOrder (edges.foldl machine.gather [])).map Row.arranged

/-- Rows with the labels of past edges. -/
structure Gathers (machine : Machine) (past : List Edge) (rows : List Row) : Prop where
  distinct : (rows.map Row.ends).Nodup
  mem_ends : ∀ ends, ends ∈ rows.map Row.ends ↔ ends ∈ past.map Edge.ends
  labels : ∀ row ∈ rows, row.labels =
    (past.filter fun edge => edge.ends = row.ends).map fun edge => machine.symbolDrawn edge.symbol

theorem ends_gather (rows : List Row) (edge : Edge) :
    (machine.gather rows edge).map Row.ends =
      if edge.ends ∈ rows.map Row.ends then rows.map Row.ends
      else rows.map Row.ends ++ [edge.ends] := by
  induction rows with
  | nil => rfl
  | cons row rest ih =>
    unfold gather
    by_cases same : row.ends = edge.ends
    · have kept : Row.ends { row with labels := row.labels ++ [machine.symbolDrawn edge.symbol] } =
          row.ends := rfl
      simp [same, kept]
    · rw [if_neg same, List.map_cons, ih]
      by_cases known : edge.ends ∈ rest.map Row.ends
      · simp [known]
      · simp [known, Ne.symm same]

/-- A row that comes out is an old one with other ends, or has the ends and the label of the edge. -/
theorem mem_gather {rows : List Row} {edge : Edge} (distinct : (rows.map Row.ends).Nodup) {row : Row}
    (member : row ∈ machine.gather rows edge) :
    row ∈ rows ∧ row.ends ≠ edge.ends ∨
      row.ends = edge.ends ∧ ∃ before, row.labels = before ++ [machine.symbolDrawn edge.symbol] ∧
        ((∃ old ∈ rows, old.ends = edge.ends ∧ old.labels = before) ∨
          edge.ends ∉ rows.map Row.ends ∧ before = []) := by
  induction rows with
  | nil =>
    obtain rfl := List.mem_singleton.1 member
    exact Or.inr ⟨rfl, [], rfl, Or.inr ⟨List.not_mem_nil, rfl⟩⟩
  | cons first rest ih =>
    obtain ⟨apart, distinctRest⟩ := List.nodup_cons.1 distinct
    unfold gather at member
    by_cases same : first.ends = edge.ends
    · rw [if_pos same] at member
      rcases List.mem_cons.1 member with rfl | inRest
      · exact Or.inr ⟨same, first.labels, rfl, Or.inl ⟨first, List.mem_cons_self, same, rfl⟩⟩
      · refine Or.inl ⟨List.mem_cons_of_mem _ inRest, fun alike => apart ?_⟩
        rw [same, ← alike]
        exact List.mem_map_of_mem inRest
    · rw [if_neg same] at member
      rcases List.mem_cons.1 member with rfl | inRest
      · exact Or.inl ⟨List.mem_cons_self, same⟩
      · rcases ih distinctRest inRest with
          ⟨old, other⟩ | ⟨ends, before, labels, ⟨old, inOld, found⟩ | ⟨fresh, none⟩⟩
        · exact Or.inl ⟨List.mem_cons_of_mem _ old, other⟩
        · exact Or.inr ⟨ends, before, labels, Or.inl ⟨old, List.mem_cons_of_mem _ inOld, found⟩⟩
        · refine Or.inr ⟨ends, before, labels, Or.inr ⟨?_, none⟩⟩
          simp [fresh, Ne.symm same]

namespace Gathers

variable {past : List Edge} {rows : List Row}

theorem nil (machine : Machine) : machine.Gathers [] [] := by
  constructor <;> simp

theorem gather (gathers : machine.Gathers past rows) (edge : Edge) :
    machine.Gathers (past ++ [edge]) (machine.gather rows edge) where
  distinct := by
    rw [ends_gather]
    split
    · exact gathers.distinct
    · rename_i fresh
      rw [← List.concat_eq_append]
      exact gathers.distinct.concat fresh
  mem_ends ends := by
    rw [ends_gather, List.map_append, List.mem_append, ← gathers.mem_ends, List.map_singleton,
      List.mem_singleton]
    split
    · rename_i known
      constructor
      · exact Or.inl
      · rintro (old | rfl)
        · exact old
        · exact known
    · rw [List.mem_append, List.mem_singleton]
  labels row member := by
    rw [List.filter_append, List.map_append]
    rcases mem_gather gathers.distinct member with
      ⟨old, other⟩ | ⟨ends, before, labels, ⟨old, inOld, sameEnds, rfl⟩ | ⟨fresh, rfl⟩⟩
    · simp [gathers.labels row old, Ne.symm other]
    · rw [labels, gathers.labels old inOld, sameEnds, ends]
      simp
    · -- No past edge has the ends of a row that is new.
      have none : (past.filter fun other => other.ends = edge.ends) = [] := by
        rw [List.filter_eq_nil_iff]
        intro other inPast same
        rw [gathers.mem_ends, ← of_decide_eq_true same] at fresh
        exact fresh (List.mem_map_of_mem inPast)
      rw [labels, ends, none]
      simp

/-- The run of the steps, one edge after the other. -/
theorem foldl (gathers : machine.Gathers past rows) (edges : List Edge) :
    machine.Gathers (past ++ edges) (edges.foldl machine.gather rows) := by
  induction edges generalizing past rows with
  | nil => simpa using gathers
  | cons edge rest ih =>
    have further := ih (gathers.gather edge)
    rwa [List.append_assoc, List.singleton_append] at further

end Gathers

/-- The symbols of the edges with some ends. -/
def symbolsAmong (edges : List Edge) (ends : Char × Char) : List Char :=
  (edges.filter fun edge => edge.ends = ends).map Edge.symbol

theorem mem_symbolsAmong_iff (edges : List Edge) (source symbol target : Char) :
    symbol ∈ symbolsAmong edges (source, target) ↔ ⟨source, symbol, target⟩ ∈ edges := by
  constructor
  · intro member
    obtain ⟨⟨s, a, t⟩, kept, rfl⟩ := List.mem_map.1 member
    obtain ⟨listed, same⟩ := List.mem_filter.1 kept
    cases of_decide_eq_true same
    exact listed
  · intro listed
    exact List.mem_map.2 ⟨_, List.mem_filter.2 ⟨listed, decide_eq_true rfl⟩, rfl⟩

/-- Edges with the same ends that are listed once differ in their symbols. -/
theorem nodup_symbolsAmong {edges : List Edge} (distinct : edges.Nodup) (ends : Char × Char) :
    (symbolsAmong edges ends).Nodup := by
  refine List.Nodup.map_on ?_ (distinct.filter _)
  rintro ⟨s, a, t⟩ inFirst ⟨s', a', t'⟩ inSecond sameSymbol
  have sameEnds := (of_decide_eq_true (List.mem_filter.1 inFirst).2).trans
    (of_decide_eq_true (List.mem_filter.1 inSecond).2).symm
  cases sameEnds
  cases sameSymbol
  rfl

theorem Gathers.arranged_perm {past : List Edge} {rows : List Row} (gathers : machine.Gathers past rows)
    {row : Row} (member : row ∈ rows) :
    row.arranged.labels.Perm ((symbolsAmong past row.ends).map machine.symbolDrawn) := by
  refine (Ascending.sort_perm _ _).trans ?_
  rw [gathers.labels row member, symbolsAmong, List.map_map]
  rfl

theorem mem_arranged_iff (rows : List Row) (row : Row) :
    row ∈ (Row.inOrder rows).map Row.arranged ↔ ∃ old ∈ rows, old.arranged = row := by
  simp only [List.mem_map, (Row.inOrder_perm rows).mem_iff]

/-- From every list of the transitions, in whatever order, the rows of the graph are collected. -/
theorem isRows_collect {listing : List Edge} (distinct : listing.Nodup)
    (transitions : ∀ edge, edge ∈ listing ↔ machine.Leads edge.source edge.symbol edge.target) :
    machine.IsRows (machine.collect listing) := by
  have gathers : machine.Gathers listing (listing.foldl machine.gather []) :=
    (Gathers.nil machine).foldl listing
  unfold collect
  generalize listing.foldl machine.gather [] = rows at gathers
  constructor
  · exact List.pairwise_map.2 (Row.pairwise_inOrder gathers.distinct)
  · intro source target
    have met : (∃ row ∈ rows, row.ends = (source, target)) ↔
        ∃ edge ∈ listing, edge.ends = (source, target) := by
      simpa using gathers.mem_ends (source, target)
    simp only [mem_arranged_iff, exists_exists_and_eq_and]
    refine met.trans ⟨?_, ?_⟩
    · rintro ⟨⟨s, symbol, t⟩, listed, same⟩
      cases same
      exact ⟨symbol, (transitions _).1 listed⟩
    · rintro ⟨symbol, leads⟩
      exact ⟨⟨source, symbol, target⟩, (transitions _).2 leads, rfl⟩
  · intro row member
    obtain ⟨old, _, rfl⟩ := (mem_arranged_iff rows row).1 member
    exact pairwise_sort_le old.labels
  · intro row member
    obtain ⟨old, inRows, rfl⟩ := (mem_arranged_iff rows row).1 member
    refine ⟨symbolsAmong listing old.ends, nodup_symbolsAmong distinct _, fun symbol => ?_,
      gathers.arranged_perm inRows⟩
    exact (mem_symbolsAmong_iff listing _ symbol _).trans (transitions _)

end Machine

end AutomataShell
