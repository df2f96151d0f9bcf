import AutomataShell.Machine.Basic
import AutomataShell.Machine.Label
import AutomataShell.Text.LetterCase

/-! What a machine refuses, with the wording of each cause. -/

set_option autoImplicit false

namespace AutomataShell

open Text

inductive MachineError where
  | unknownKind (kind : Text)
  | noAlphabet
  | badSymbol (symbol : Label) (fault : LabelFault)
  | repeatedSymbol
  | emptyMoveInAlphabet
  | badName (name : Label) (fault : LabelFault)
  | nameTaken (name : Char)
  | unknownNodes (names : List Label)
  | emptyMoveForbidden
  | foreignLetter (kind : Kind) (letter : Label) (alphabet : List Char)
  | noNodes
  | incomplete (missing : List (Char × Char))
  | noAccepting
  deriving DecidableEq, Repr

namespace MachineError

def alphabetShown (alphabet : List Char) : Text :=
  "[" ++ enumerated alphabet ++ "]"

def missingShown (missing : Char × Char) : Text :=
  "Missing path in node " ++ [missing.1] ++ " for letter " ++ [missing.2]

def message : MachineError → Text
  | .unknownKind kind => upper kind ++ " is not a valid automaton type."
  | .noAlphabet => "The alphabet can't be null."
  | .badSymbol symbol fault => fault.message "Alphabet symbols" ++ ": " ++ symbol.quoted ++ "."
  | .repeatedSymbol => "The alphabet can't contain duplicate characters."
  | .emptyMoveInAlphabet =>
    "The empty move character 'e' should not be used in a deterministic automaton."
  | .badName name fault =>
    "Invalid node name " ++ name.quoted ++ ": " ++ fault.message "Node names" ++ "."
  | .nameTaken name => "There already is a node named " ++ [name] ++ "."
  | .unknownNodes names => "There is no node named " ++ join ", " (names.map Label.shown) ++ "."
  | .emptyMoveForbidden => "The empty move 'e' should not be used in a deterministic automaton."
  | .foreignLetter .deterministic letter alphabet =>
    "Letter " ++ letter.shown ++ " is not in the alphabet " ++ alphabetShown alphabet ++ "."
  | .foreignLetter .nondeterministic letter alphabet =>
    "The letter " ++ letter.shown ++ " does not belong in the alphabet " ++
      alphabetShown alphabet ++ "."
  | .noNodes => "This automaton is empty."
  | .incomplete missing =>
    join "\n" (missing.map missingShown) ++
      "\nThis automaton does not represent a finite-state machine."
  | .noAccepting => "*Warning*: No accept-states specified: no word can be accepted."

end MachineError

end AutomataShell
