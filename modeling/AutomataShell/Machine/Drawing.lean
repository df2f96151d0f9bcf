import AutomataShell.Machine.Basic

/-! The drawing of a machine in the DOT language: one line for each node, and one for each pair of
nodes with an edge between them, labelled with all their symbols. -/

set_option autoImplicit false

namespace AutomataShell

open Text

structure DrawingStyle where
  graphName : Text
  direction : Text

/-- Left to right, under the plain graph name. -/
def DrawingStyle.standard : DrawingStyle :=
  ⟨"Automaton", "LR"⟩

namespace Machine

variable (machine : Machine)

/-- A symbol as drawn: the empty move is an epsilon. -/
def symbolDrawn (symbol : Char) : Char :=
  if machine.kind = .nondeterministic ∧ symbol = emptyMove then 'ε' else symbol

def inQuotes (text : Text) : Text :=
  "\"" ++ text ++ "\""

def startLines : List Text :=
  match machine.initial with
  | none => []
  | some start =>
    ["  __start__ [shape=point];", "  __start__ -> " ++ inQuotes [start] ++ ";"]

def nodeLine (node : Char) : Text :=
  "  " ++ inQuotes [node] ++ " [shape=" ++
    (if machine.accepting.contains node then "doublecircle" else "circle") ++ "];"

/-- The labels of the edge line from one node to another, in ascending order. -/
def labels (source target : Char) : List Char :=
  Ascending.sort charBefore ((machine.symbolsBetween source target).map machine.symbolDrawn)

def edgeLine (source target : Char) (labels : List Char) : Text :=
  "  " ++ inQuotes [source] ++ " -> " ++ inQuotes [target] ++ " [label=" ++
    inQuotes (enumerated labels) ++ "];"

def edgeLines : List Text :=
  machine.nodes.flatMap fun source =>
    machine.nodes.filterMap fun target =>
      match machine.labels source target with
      | [] => none
      | labels => some (edgeLine source target labels)

def openingLines (style : DrawingStyle) : List Text :=
  ["digraph " ++ inQuotes style.graphName ++ " \x7b", "  rankdir=" ++ style.direction ++ ";",
    "  node [shape=circle];"]

def drawing (style : DrawingStyle) : Text :=
  join "\n" (openingLines style ++ machine.startLines ++ machine.nodes.map machine.nodeLine ++
    machine.edgeLines ++ [("\x7d" : Text)])

end Machine

end AutomataShell
