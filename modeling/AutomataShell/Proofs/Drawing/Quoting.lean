import AutomataShell.Proofs.Drawing.Rows
import AutomataShell.Proofs.Drawing.Statements

/-! Names and labels between the quotes of a drawing. They stand there as they are, so the drawing is
read as the graph of the machine only if none of them would have to be escaped. -/

set_option autoImplicit false

namespace AutomataShell

open Text Dot

/-- The parts with a separator behind each but the last. -/
theorem Text.join_concat (separator : Text) (parts : List Text) (last : Text) :
    join separator (parts ++ [last]) = parts.flatMap (· ++ separator) ++ last := by
  induction parts with
  | nil => rfl
  | cons part parts ih =>
    cases parts with
    | nil => simp [join]
    | cons next rest => simpa [join] using ih

namespace Machine

variable (machine : Machine)

/-- The names and labels that a drawing is made from, in the order of its lines. -/
def stringsDrawn : List Text :=
  ("Automaton" : Text) :: machine.initial.toList.map (fun start => [start]) ++
    machine.nodes.map (fun node => [node]) ++
      machine.rows.flatMap fun row => [[row.source], [row.target], enumerated row.labels]

/-- The shape of a node in a drawing. -/
def shape (node : Char) : Text :=
  (if machine.accepting.contains node then "doublecircle" else "circle" : String)

def startStatements : List Statement :=
  match machine.initial with
  | none => []
  | some start => [.node "__start__" ⟨"shape", "point"⟩, .edge "__start__" [start] none]

/-- The graph that a drawing is to show: the nodes of the machine and its rows as edges, beside the
way to the initial node. -/
def graphDrawn : Graph where
  name := "Automaton"
  statements :=
    .setting ⟨"rankdir", "LR"⟩ :: .eachNode ⟨"shape", "circle"⟩ :: (machine.startStatements ++
      ((machine.nodes.map fun node => .node [node] ⟨"shape", machine.shape node⟩) ++
        machine.rows.map fun row =>
          .edge [row.source] [row.target] (some ⟨"label", enumerated row.labels⟩)))

def propertyTokens (key : Text) (value : Token) : List Token :=
  [.mark '[', .word key, .mark '=', value, .mark ']', .mark ';']

def openingTokens : List Token :=
  [.word "digraph", .quoted "Automaton", .mark '\x7b', .word "rankdir", .mark '=', .word "LR",
    .mark ';', .word "node"] ++ propertyTokens "shape" (.word "circle")

def startTokens : List Token :=
  match machine.initial with
  | none => []
  | some start => .word "__start__" :: propertyTokens "shape" (.word "point") ++
      [.word "__start__", .arrow, .quoted [start], .mark ';']

def nodeTokens (node : Char) : List Token :=
  .quoted [node] :: propertyTokens "shape" (.word (machine.shape node))

def rowTokens (row : Row) : List Token :=
  .quoted [row.source] :: .arrow :: .quoted [row.target] ::
    propertyTokens "label" (.quoted (enumerated row.labels))

def tokensDrawn : List Token :=
  openingTokens ++ machine.startTokens ++ machine.nodes.flatMap machine.nodeTokens ++
    machine.rows.flatMap rowTokens ++ [.mark '\x7d']

theorem reads_opening :
    ReadsAs ((openingLines .standard).flatMap (· ++ "\n")) openingTokens True := by
  have keyword : ReadsAs "digraph " [.word "digraph"] True :=
    .plain (by decide) (by decide)
  have rest : ReadsAs " \x7b\n  rankdir=LR;\n  node [shape=circle];\n" (openingTokens.drop 2) True :=
    .plain (by decide) (by decide)
  exact ((keyword.append (.quoted "Automaton")).append rest).congr (by decide)

theorem reads_start :
    ReadsAs (machine.startLines.flatMap (· ++ "\n")) machine.startTokens
      (∀ start ∈ machine.initial, IsClean [start]) := by
  unfold startLines startTokens
  cases machine.initial with
  | none => exact (ReadsAs.plain (by decide) rfl).congr (by simp)
  | some start =>
    have before : ReadsAs "  __start__ [shape=point];\n  __start__ -> "
        (.word "__start__" :: propertyTokens "shape" (.word "point") ++ [.word "__start__", .arrow])
        True :=
      .plain (by decide) (by decide)
    have behind : ReadsAs ";\n" [.mark ';'] True :=
      .plain (by decide) (by decide)
    have both := (before.append (.quoted [start])).append behind
    simpa [inQuotes, propertyTokens] using both

theorem reads_shape (node : Char) :
    ReadsAs (" [shape=" ++ machine.shape node ++ "];\n")
      (propertyTokens "shape" (.word (machine.shape node))) True := by
  unfold shape
  split
  · exact .plain (by decide) (by decide)
  · exact .plain (by decide) (by decide)

theorem reads_nodeLine (node : Char) :
    ReadsAs (machine.nodeLine node ++ "\n") (machine.nodeTokens node) (IsClean [node]) := by
  have indent : ReadsAs "  " [] True :=
    .plain (by decide) (by decide)
  have line := (indent.append (.quoted [node])).append (machine.reads_shape node)
  have same : machine.nodeLine node ++ "\n" =
      "  " ++ ("\x22" ++ [node] ++ "\x22") ++ (" [shape=" ++ machine.shape node ++ "];\n") := by
    simp only [nodeLine, inQuotes, shape, List.append_assoc]
    rfl
  rw [same]
  exact line.congr (by simp)

theorem reads_line (row : Row) :
    ReadsAs (row.line ++ "\n") (rowTokens row)
      (IsClean [row.source] ∧ IsClean [row.target] ∧ IsClean (enumerated row.labels)) := by
  have indent : ReadsAs "  " [] True :=
    .plain (by decide) (by decide)
  have arrow : ReadsAs " -> " [.arrow] True :=
    .plain (by decide) (by decide)
  have label : ReadsAs " [label=" [.mark '[', .word "label", .mark '='] True :=
    .plain (by decide) (by decide)
  have behind : ReadsAs "];\n" [.mark ']', .mark ';'] True :=
    .plain (by decide) (by decide)
  have line := (((((indent.append (.quoted [row.source])).append arrow).append
    (.quoted [row.target])).append label).append (.quoted (enumerated row.labels))).append behind
  simpa [Row.line, rowTokens, propertyTokens, and_assoc] using line

theorem reads_drawing (proper : machine.IsProper) :
    ReadsAs (machine.drawing .standard) machine.tokensDrawn
      ((∀ node ∈ machine.nodes, IsClean [node]) ∧ ∀ row ∈ machine.rows,
        IsClean [row.source] ∧ IsClean [row.target] ∧ IsClean (enumerated row.labels)) := by
  have closing : ReadsAs "\x7d" [.mark '\x7d'] True :=
    .plain (by decide) (by decide)
  have all := (((reads_opening.append machine.reads_start).append
    (.flatMap machine.nodes machine.reads_nodeLine)).append
      (.flatMap machine.rows reads_line)).append closing
  rw [drawing, Text.join_concat, edgeLines_eq]
  simp only [List.flatMap_append, List.flatMap_map]
  refine all.congr ?_
  have startIsNode : (∀ node ∈ machine.nodes, IsClean [node]) →
      ∀ start ∈ machine.initial, IsClean [start] :=
    fun clean start starts => clean start (proper.initial_mem start starts)
  simpa [and_assoc] using fun clean _ => startIsNode clean

theorem content_tokensDrawn :
    machine.tokensDrawn.filterMap Token.content = machine.stringsDrawn := by
  have start : machine.startTokens.filterMap Token.content =
      machine.initial.toList.map fun start => [start] := by
    unfold startTokens
    cases machine.initial <;> rfl
  have node (node : Char) : (machine.nodeTokens node).filterMap Token.content = [[node]] := rfl
  have row (row : Row) : (rowTokens row).filterMap Token.content =
      [[row.source], [row.target], enumerated row.labels] := rfl
  have opening : openingTokens.filterMap Token.content = [("Automaton" : Text)] := rfl
  have closing : [Token.mark '\x7d'].filterMap Token.content = [] := rfl
  simp only [tokensDrawn, stringsDrawn, List.filterMap_append, List.filterMap_flatMap, opening, start,
    node, row, closing, List.map_eq_flatMap, List.append_nil, List.cons_append, List.nil_append]

theorem readStatements_startTokens (rest : List Token) :
    readStatements (machine.startTokens ++ rest) =
      (readStatements rest).map (machine.startStatements ++ ·) := by
  unfold startTokens startStatements
  cases machine.initial with
  | none => simp
  | some start =>
    have point (others : List Token) :
        readStatements ((.word "__start__" :: propertyTokens "shape" (.word "point")) ++ others) =
          (readStatements others).map (.node "__start__" ⟨"shape", "point"⟩ :: ·) :=
      readStatements_node rfl rfl others
    have way : readStatements ([.word "__start__", .arrow, .quoted [start], .mark ';'] ++ rest) =
        (readStatements rest).map (.edge "__start__" [start] none :: ·) :=
      readStatements_edge rfl rfl rest
    rw [List.append_assoc, point, way, Option.map_map]
    rfl

theorem readStatements_nodeTokens (node : Char) (rest : List Token) :
    readStatements (machine.nodeTokens node ++ rest) =
      (readStatements rest).map (.node [node] ⟨"shape", machine.shape node⟩ :: ·) := by
  have property : readProperty (.word "shape") (.word (machine.shape node)) =
      some ⟨"shape", machine.shape node⟩ := by
    unfold shape
    split <;> rfl
  exact readStatements_node property rfl rest

theorem readStatements_rowTokens (row : Row) (rest : List Token) :
    readStatements (rowTokens row ++ rest) = (readStatements rest).map
      (.edge [row.source] [row.target] (some ⟨"label", enumerated row.labels⟩) :: ·) :=
  readStatements_edge_with rfl rfl rfl rest

theorem readTokens_openingTokens (rest : List Token) :
    readTokens (openingTokens ++ rest) = (readStatements rest).map fun statements =>
      ⟨"Automaton", .setting ⟨"rankdir", "LR"⟩ :: .eachNode ⟨"shape", "circle"⟩ :: statements⟩ := by
  have direction (others : List Token) :
      readStatements ([.word "rankdir", .mark '=', .word "LR", .mark ';'] ++ others) =
        (readStatements others).map (.setting ⟨"rankdir", "LR"⟩ :: ·) :=
    readStatements_setting rfl others
  have circles : readStatements (.word "node" :: propertyTokens "shape" (.word "circle") ++ rest) =
      (readStatements rest).map (.eachNode ⟨"shape", "circle"⟩ :: ·) :=
    readStatements_node rfl rfl rest
  have spelled : openingTokens ++ rest = .word "digraph" :: .quoted "Automaton" :: .mark '\x7b' ::
      ([.word "rankdir", .mark '=', .word "LR", .mark ';'] ++
        (.word "node" :: propertyTokens "shape" (.word "circle") ++ rest)) :=
    rfl
  rw [spelled, readTokens, if_pos rfl, direction, circles]
  cases readStatements rest <;> rfl

theorem readTokens_tokensDrawn : readTokens machine.tokensDrawn = some machine.graphDrawn := by
  have closing : readStatements [.mark '\x7d'] = some [] := rfl
  have grouped : machine.tokensDrawn = openingTokens ++ (machine.startTokens ++
      (machine.nodes.flatMap machine.nodeTokens ++
        (machine.rows.flatMap rowTokens ++ [.mark '\x7d']))) := by
    simp only [tokensDrawn, List.append_assoc]
  rw [grouped, readTokens_openingTokens, readStatements_startTokens,
    readStatements_flatMap machine.readStatements_nodeTokens,
    readStatements_flatMap readStatements_rowTokens, closing, Option.map_some, List.append_nil]
  rfl

/-- A graph whose names and labels can stand between quotes as they are: none is a quote, no node is a
backslash, and in each label that has a backslash another symbol comes last. -/
structure IsQuotable : Prop where
  nodes : ∀ node ∈ machine.nodes, node ≠ '\x22' ∧ node ≠ '\\'
  symbols : ∀ source target, ¬ machine.Leads source '\x22' target
  covered : ∀ source target, machine.Leads source '\\' target →
    ∃ symbol, machine.Leads source symbol target ∧ '\\' < machine.symbolDrawn symbol

theorem isClean_singleton (c : Char) : IsClean [c] ↔ c ≠ '\x22' ∧ c ≠ '\\' := by
  rw [isClean_cons_iff]
  simp [IsClean]

theorem isClean_enumerated_iff (labels : List Char) :
    IsClean (enumerated labels) ↔ '\x22' ∉ labels ∧ labels.getLast? ≠ some '\\' := by
  induction labels with
  | nil => simp [enumerated, join, IsClean]
  | cons label labels ih =>
    cases labels with
    | nil => rfl
    | cons next rest =>
      have spelled : enumerated (label :: next :: rest) =
          label :: ',' :: ' ' :: enumerated (next :: rest) :=
        rfl
      rw [spelled, isClean_cons_iff, isClean_cons_iff, isClean_cons_iff, ih]
      simp [@eq_comm _ '\x22' label, and_assoc]

/-- The last of ascending labels is the one that no other comes after. -/
theorem getLast?_ne_iff {labels : List Char} (sorted : labels.Pairwise (· ≤ ·)) (c : Char) :
    labels.getLast? ≠ some c ↔ (c ∈ labels → ∃ label ∈ labels, c < label) := by
  rcases List.eq_nil_or_concat' labels with rfl | ⟨before, last, rfl⟩
  · simp
  have below : ∀ label ∈ before, label ≤ last := by
    simpa using (List.pairwise_append.1 sorted).2.2
  rw [List.getLast?_concat, ne_eq, Option.some.injEq]
  constructor
  · intro notLast member
    rcases List.mem_append.1 member with inBefore | isLast
    · exact ⟨last, by simp, lt_of_le_of_ne (below c inBefore) (Ne.symm notLast)⟩
    · exact absurd (List.mem_singleton.1 isLast).symm notLast
  · rintro covered rfl
    obtain ⟨label, member, less⟩ := covered (by simp)
    rcases List.mem_append.1 member with inBefore | isLast
    · exact absurd less (not_lt.2 (below label inBefore))
    · exact absurd (List.mem_singleton.1 isLast ▸ less) (lt_irrefl last)

theorem symbolDrawn_eq_iff {c : Char} (notEmpty : c ≠ emptyMove) (notEpsilon : c ≠ 'ε')
    (symbol : Char) : machine.symbolDrawn symbol = c ↔ symbol = c := by
  unfold symbolDrawn
  split
  · rename_i isEmpty
    rw [isEmpty.2]
    exact iff_of_false (Ne.symm notEpsilon) (Ne.symm notEmpty)
  · rfl

theorem isQuotable_iff (proper : machine.IsProper) (ordered : machine.IsOrdered) :
    machine.IsQuotable ↔ (∀ node ∈ machine.nodes, IsClean [node]) ∧ ∀ row ∈ machine.rows,
      IsClean [row.source] ∧ IsClean [row.target] ∧ IsClean (enumerated row.labels) := by
  have isRows := isRows_rows proper ordered
  have drawsQuote := machine.symbolDrawn_eq_iff (c := '\x22') (by decide) (by decide)
  have drawsBackslash := machine.symbolDrawn_eq_iff (c := '\\') (by decide) (by decide)
  constructor
  · intro quotable
    have clean (node : Char) (isNode : node ∈ machine.nodes) : IsClean [node] :=
      (isClean_singleton node).2 (quotable.nodes node isNode)
    refine ⟨clean, fun row member => ?_⟩
    obtain ⟨isSource, isTarget, -, -⟩ := (machine.mem_rows row).1 member
    refine ⟨clean _ isSource, clean _ isTarget, (isClean_enumerated_iff _).2 ⟨?_, ?_⟩⟩
    · intro quote
      obtain ⟨symbol, leads, drawn⟩ := (isRows.mem_labels_iff member _).1 quote
      rw [drawsQuote] at drawn
      exact quotable.symbols _ _ (drawn ▸ leads)
    · rw [getLast?_ne_iff (isRows.sorted row member)]
      intro backslash
      obtain ⟨symbol, leads, drawn⟩ := (isRows.mem_labels_iff member _).1 backslash
      rw [drawsBackslash] at drawn
      obtain ⟨other, leadsToo, less⟩ := quotable.covered _ _ (drawn ▸ leads)
      exact ⟨_, (isRows.mem_labels_iff member _).2 ⟨other, leadsToo, rfl⟩, less⟩
  · rintro ⟨nodes, rows⟩
    refine ⟨fun node isNode => (isClean_singleton node).1 (nodes node isNode), ?_, ?_⟩
    · intro source target leads
      obtain ⟨row, member, ends⟩ := (isRows.joined source target).2 ⟨_, leads⟩
      cases ends
      have labels := (isClean_enumerated_iff _).1 (rows row member).2.2
      exact labels.1 ((isRows.mem_labels_iff member _).2 ⟨_, leads, (drawsQuote _).2 rfl⟩)
    · intro source target leads
      obtain ⟨row, member, ends⟩ := (isRows.joined source target).2 ⟨_, leads⟩
      cases ends
      have labels := (isClean_enumerated_iff _).1 (rows row member).2.2
      have backslash := (isRows.mem_labels_iff member _).2 ⟨_, leads, (drawsBackslash _).2 rfl⟩
      obtain ⟨label, inLabels, less⟩ :=
        (getLast?_ne_iff (isRows.sorted row member) _).1 labels.2 backslash
      obtain ⟨symbol, leadsToo, rfl⟩ := (isRows.mem_labels_iff member _).1 inLabels
      exact ⟨symbol, leadsToo, less⟩

/-- The strings of a drawing are read as the names and labels that it is made from, and the drawing as
the graph of the machine, just when none of the names and labels would have to be escaped. -/
theorem reads_drawing_iff {kind : Kind} {alphabet : Option (List Label)} {fresh : Machine}
    (created : create kind alphabet = .ok fresh) (steps : List BuildStep) :
    let machine := fresh.build steps
    machine.IsRows machine.rows ∧
      (quotedStrings (machine.drawing .standard) = some machine.stringsDrawn ↔ machine.IsQuotable) ∧
        (readGraph (machine.drawing .standard) = some machine.graphDrawn ↔ machine.IsQuotable) := by
  intro machine
  have proper : machine.IsProper := (isProper_of_create created).build steps
  have ordered : machine.IsOrdered := (isOrdered_of_create created).build steps
  have reads := (machine.reads_drawing proper).congr (machine.isQuotable_iff proper ordered).symm
  refine ⟨isRows_rows proper ordered, ?_, ?_, ?_⟩
  · rw [← machine.content_tokensDrawn]
    exact reads.filterMap_tokens_iff fun _ => rfl
  · intro same
    -- A graph keeps the identifiers among its tokens, and so the strings, though not the tokens.
    obtain ⟨read, found, readToo⟩ := Option.bind_eq_some_iff.1 same
    rw [← reads.filterMap_tokens_iff Token.identifier_quoted, found, Option.map_some,
      identifiers_of_readTokens readToo, identifiers_of_readTokens machine.readTokens_tokensDrawn]
  · intro isQuotable
    rw [readGraph, reads.tokens_eq isQuotable, Option.bind_some, machine.readTokens_tokensDrawn]

def stepsQuoting : List BuildStep :=
  [.node (Label.ofChar '\x22') false]

/-- A backslash and another symbol after it, between the same two nodes. -/
def stepsCovering : List BuildStep :=
  [.node (Label.ofChar 'x') false, .node (Label.ofChar 'y') true,
    .edge (Label.ofChar 'x') (Label.ofChar 'a') (Label.ofChar 'y'),
    .edge (Label.ofChar 'x') (Label.ofChar '\\') (Label.ofChar 'y')]

/-- A quote is a legal name, and the drawing of a node with this name is not read as it should be. -/
theorem misreads_stepsQuoting :
    let quoting := (empty .deterministic ['a']).build stepsQuoting
    let covering := (empty .nondeterministic ['a', '\\']).build stepsCovering
    create .deterministic (some [Label.ofChar 'a']) = .ok (empty .deterministic ['a']) ∧
      quoting.stringsDrawn = ["Automaton", "\x22", "\x22"] ∧
      quotedStrings (quoting.drawing .standard) =
        some (["Automaton", "", ";\n  ", ""] : List Text) ∧
      readGraph (quoting.drawing .standard) ≠ some quoting.graphDrawn ∧
      create .nondeterministic (some [Label.ofChar 'a', Label.ofChar '\\']) =
        .ok (empty .nondeterministic ['a', '\\']) ∧
      covering.stringsDrawn = ["Automaton", "x", "x", "y", "x", "y", "\\, a"] ∧
      quotedStrings (covering.drawing .standard) = some covering.stringsDrawn ∧
      readGraph (covering.drawing .standard) = some covering.graphDrawn := by
  intro quoting covering
  have created : create .deterministic (some [Label.ofChar 'a']) =
      .ok (empty .deterministic ['a']) := by
    decide
  have createdToo : create .nondeterministic (some [Label.ofChar 'a', Label.ofChar '\\']) =
      .ok (empty .nondeterministic ['a', '\\']) := by
    decide
  have misread : quotedStrings (quoting.drawing .standard) =
      some (["Automaton", "", ";\n  ", ""] : List Text) := by
    decide +kernel
  have expected : quoting.stringsDrawn = ["Automaton", "\x22", "\x22"] := by
    decide +kernel
  have quotable : covering.IsQuotable := by
    refine (covering.isQuotable_iff ((isProper_of_create createdToo).build stepsCovering)
      ((isOrdered_of_create createdToo).build stepsCovering)).2 ?_
    have nodes : covering.nodes = ['x', 'y'] := by
      decide +kernel
    have rows : covering.rows = [⟨'x', 'y', ['\\', 'a']⟩] := by
      decide +kernel
    rw [nodes, rows, List.forall_mem_cons, List.forall_mem_singleton, List.forall_mem_singleton]
    decide
  obtain ⟨_, strings_iff, graph_iff⟩ := reads_drawing_iff created stepsQuoting
  obtain ⟨_, stringsToo_iff, graphToo_iff⟩ := reads_drawing_iff createdToo stepsCovering
  refine ⟨created, expected, misread, ?_, createdToo, by decide +kernel, stringsToo_iff.2 quotable,
    graphToo_iff.2 quotable⟩
  intro readAsDrawn
  have same := strings_iff.2 (graph_iff.1 readAsDrawn)
  rw [misread, expected] at same
  exact absurd same (by decide)

end Machine

end AutomataShell
