import AutomataShell.Proofs.Drawing.Reading

/-! The statements of a graph in the DOT language, read from its tokens. -/

set_option autoImplicit false

namespace AutomataShell.Dot

/-- The words that name nothing. -/
def keywords : List Text :=
  ["node", "edge", "graph", "digraph", "subgraph", "strict"]

/-- What a token names. -/
def Token.identifier : Token → Option Text
  | .word letters => if letters ∈ keywords then none else some letters
  | .quoted content => some content
  | .arrow | .mark _ => none

@[simp] theorem Token.identifier_arrow : Token.arrow.identifier = none := rfl

@[simp] theorem Token.identifier_mark (c : Char) : (Token.mark c).identifier = none := rfl

@[simp] theorem Token.identifier_quoted (content : Text) :
    (Token.quoted content).identifier = some content := rfl

/-- A property of a node or an edge, with its value. -/
structure Property where
  key : Text
  value : Text
  deriving DecidableEq, Repr

inductive Statement where
  | setting (property : Property)
  | eachNode (property : Property)
  | node (name : Text) (property : Property)
  | edge (source target : Text) (property : Option Property)
  deriving DecidableEq, Repr

structure Graph where
  name : Text
  statements : List Statement
  deriving DecidableEq, Repr

def readProperty (key value : Token) : Option Property := do
  return ⟨← key.identifier, ← value.identifier⟩

/-- A property of the node that a token names, or of each node. -/
def readNode (name : Token) (property : Property) : Option Statement :=
  if name = .word "node" then some (.eachNode property)
  else name.identifier.map fun name => .node name property

/-- Statements up to the brace that closes the graph. -/
def readStatements : List Token → Option (List Statement)
  | [.mark '\x7d'] => some []
  | key :: .mark '=' :: value :: .mark ';' :: rest => do
    return .setting (← readProperty key value) :: (← readStatements rest)
  | name :: .mark '[' :: key :: .mark '=' :: value :: .mark ']' :: .mark ';' :: rest => do
    return (← readNode name (← readProperty key value)) :: (← readStatements rest)
  | source :: .arrow :: target :: .mark ';' :: rest => do
    return .edge (← source.identifier) (← target.identifier) none :: (← readStatements rest)
  | source :: .arrow :: target :: .mark '[' :: key :: .mark '=' :: value :: .mark ']' ::
      .mark ';' :: rest => do
    return .edge (← source.identifier) (← target.identifier) (some (← readProperty key value)) ::
      (← readStatements rest)
  | _ => none

/-- A directed graph, which has a name. -/
def readTokens : List Token → Option Graph
  | .word letters :: name :: .mark '\x7b' :: body =>
    if letters = "digraph" then do
      return ⟨← name.identifier, ← readStatements body⟩
    else
      none
  | _ => none

def readGraph (text : Text) : Option Graph :=
  (tokens text).bind readTokens

def Property.identifiers (property : Property) : List Text :=
  [property.key, property.value]

/-- What a statement names, in the order in which it does. -/
def Statement.identifiers : Statement → List Text
  | .setting property => property.identifiers
  | .eachNode property => property.identifiers
  | .node name property => name :: property.identifiers
  | .edge source target none => [source, target]
  | .edge source target (some property) => source :: target :: property.identifiers

def Graph.identifiers (graph : Graph) : List Text :=
  graph.name :: graph.statements.flatMap Statement.identifiers

theorem readProperty_eq_some_iff (key value : Token) (property : Property) :
    readProperty key value = some property ↔
      key.identifier = some property.key ∧ value.identifier = some property.value := by
  cases property
  simp [readProperty, Option.bind_eq_some_iff]

theorem readStatements_setting {key value : Token} {property : Property}
    (isProperty : readProperty key value = some property) (rest : List Token) :
    readStatements (key :: .mark '=' :: value :: .mark ';' :: rest) =
      (readStatements rest).map (.setting property :: ·) := by
  simp only [readStatements, isProperty, Option.bind_eq_bind, Option.bind_some]
  cases readStatements rest <;> rfl

theorem readStatements_node {name key value : Token} {property : Property} {statement : Statement}
    (isProperty : readProperty key value = some property)
    (isNode : readNode name property = some statement) (rest : List Token) :
    readStatements (name :: .mark '[' :: key :: .mark '=' :: value :: .mark ']' :: .mark ';' :: rest) =
      (readStatements rest).map (statement :: ·) := by
  simp only [readStatements, isProperty, isNode, Option.bind_eq_bind, Option.bind_some]
  cases readStatements rest <;> rfl

theorem readStatements_edge {source target : Token} {start goal : Text}
    (isSource : source.identifier = some start) (isTarget : target.identifier = some goal)
    (rest : List Token) :
    readStatements (source :: .arrow :: target :: .mark ';' :: rest) =
      (readStatements rest).map (.edge start goal none :: ·) := by
  simp only [readStatements, isSource, isTarget, Option.bind_eq_bind, Option.bind_some]
  cases readStatements rest <;> rfl

theorem readStatements_edge_with {source target key value : Token} {start goal : Text}
    {property : Property} (isSource : source.identifier = some start)
    (isTarget : target.identifier = some goal) (isProperty : readProperty key value = some property)
    (rest : List Token) :
    readStatements (source :: .arrow :: target :: .mark '[' :: key :: .mark '=' :: value ::
        .mark ']' :: .mark ';' :: rest) =
      (readStatements rest).map (.edge start goal (some property) :: ·) := by
  simp only [readStatements, isSource, isTarget, isProperty, Option.bind_eq_bind, Option.bind_some]
  cases readStatements rest <;> rfl

/-- Statements are read one by one. -/
theorem readStatements_flatMap {α : Type} {items : List α} {read : α → List Token}
    {statement : α → Statement}
    (each : ∀ item rest, readStatements (read item ++ rest) =
      (readStatements rest).map (statement item :: ·)) (rest : List Token) :
    readStatements (items.flatMap read ++ rest) =
      (readStatements rest).map (items.map statement ++ ·) := by
  induction items with
  | nil => simp
  | cons item items ih =>
    rw [List.flatMap_cons, List.append_assoc, each, ih, Option.map_map]
    rfl

theorem identifiers_of_readNode {name : Token} {property : Property} {statement : Statement}
    (found : readNode name property = some statement) :
    statement.identifiers = name.identifier.toList ++ property.identifiers := by
  unfold readNode at found
  split at found
  · rename_i isKeyword
    cases found
    rw [isKeyword]
    rfl
  · obtain ⟨letters, named, rfl⟩ := Option.map_eq_some_iff.1 found
    rw [named]
    rfl

/-- Statements name in order what their tokens do. -/
theorem identifiers_of_readStatements {read : List Token} {statements : List Statement}
    (found : readStatements read = some statements) :
    read.filterMap Token.identifier = statements.flatMap Statement.identifiers := by
  fun_induction readStatements read generalizing statements with
  | case1 =>
    cases found
    rfl
  | case2 key value rest ih =>
    simp only [Option.bind_eq_bind, Option.bind_eq_some_iff, readProperty_eq_some_iff] at found
    obtain ⟨property, ⟨isKey, isValue⟩, others, foundRest, same⟩ := found
    cases same
    simp [List.filterMap_cons, isKey, isValue, ih foundRest, Statement.identifiers,
      Property.identifiers]
  | case3 name key value rest ih =>
    simp only [Option.bind_eq_bind, Option.bind_eq_some_iff, readProperty_eq_some_iff] at found
    obtain ⟨property, ⟨isKey, isValue⟩, statement, isStatement, others, foundRest, same⟩ := found
    cases same
    rw [List.flatMap_cons, identifiers_of_readNode isStatement, ← ih foundRest]
    cases named : name.identifier <;>
      simp [List.filterMap_cons, named, isKey, isValue, Property.identifiers]
  | case4 source target rest ih =>
    simp only [Option.bind_eq_bind, Option.bind_eq_some_iff] at found
    obtain ⟨_, isSource, _, isTarget, others, foundRest, same⟩ := found
    cases same
    simp [List.filterMap_cons, isSource, isTarget, ih foundRest, Statement.identifiers]
  | case5 source target key value rest ih =>
    simp only [Option.bind_eq_bind, Option.bind_eq_some_iff, readProperty_eq_some_iff] at found
    obtain ⟨_, isSource, _, isTarget, property, ⟨isKey, isValue⟩, others, foundRest, same⟩ := found
    cases same
    simp [List.filterMap_cons, isSource, isTarget, isKey, isValue, ih foundRest,
      Statement.identifiers, Property.identifiers]
  | case6 => cases found

/-- A graph names in order what its tokens do. -/
theorem identifiers_of_readTokens {read : List Token} {graph : Graph}
    (found : readTokens read = some graph) :
    read.filterMap Token.identifier = graph.identifiers := by
  fun_cases readTokens read with
  | case1 name body =>
    simp only [readTokens, if_true, Option.bind_eq_bind, Option.bind_eq_some_iff] at found
    obtain ⟨_, named, statements, foundBody, same⟩ := found
    cases same
    have isKeyword : (Token.word "digraph").identifier = none := rfl
    rw [List.filterMap_cons_none isKeyword]
    simp [List.filterMap_cons, named, identifiers_of_readStatements foundBody, Graph.identifiers]
  | case2 => simp_all [readTokens]
  | case3 => simp_all [readTokens]

end AutomataShell.Dot
