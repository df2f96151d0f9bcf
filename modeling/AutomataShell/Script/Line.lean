import AutomataShell.Script.Comment
import AutomataShell.Text.Blank

/-! The lines of a script end at semicolons, not at line breaks. -/

set_option autoImplicit false

namespace AutomataShell.Script

open Text

/-- The trimmed pieces between semicolons that are not blank. -/
def statements (text : Text) : List Text :=
  ((pieces ';' text).map trim).filter fun line => !line.isEmpty

/-- Line breaks and tabs count as spaces. -/
def breaksAsSpaces (text : Text) : Text :=
  text.map fun c => if c = '\r' ∨ c = '\n' ∨ c = '\t' then ' ' else c

/-- The lines that a script consists of once its comments are gone. -/
def logicalLines (script : Text) : List Text :=
  statements (breaksAsSpaces (removeComments script))

/-- The commands of an expanded script, where a carriage return is no line break. -/
def splitCommands (expanded : Text) : List Text :=
  statements (expanded.map fun c => if c = '\n' ∨ c = '\t' then ' ' else c)

/-- Commands in the form in which an expanded script holds them. -/
def written (commands : List Text) : Text :=
  commands.flatMap fun command => command ++ ";\n"

theorem statements_ne_nil {text line : Text} (member : line ∈ statements text) : line ≠ [] := by
  simpa using (List.mem_filter.1 member).2

/-- No line holds the mark that ends it. -/
theorem semicolon_notMem_statements {text line : Text} (member : line ∈ statements text) :
    ';' ∉ line := by
  obtain ⟨piece, inPieces, rfl⟩ := List.mem_map.1 (List.mem_filter.1 member).1
  intro inside
  exact not_mem_of_mem_pieces inPieces (mem_of_mem_trim inside)

end AutomataShell.Script
