import AutomataShell.Text.LetterCase
import AutomataShell.Text.Quoted

/-! What is wrong with the wording of a command. -/

set_option autoImplicit false

namespace AutomataShell

open Text

/-- Why a piece of an argument list names no node. -/
inductive NameFault where
  | empty
  | long
  | nul
  | wildcard
  deriving DecidableEq, Repr

def NameFault.message : NameFault → Text
  | .empty => "node names cannot be empty"
  | .long => "node names must be one character long"
  | .nul => "node name cannot be the null character"
  | .wildcard => "node name cannot be the '?' character"

inductive Malformed where
  | unknownVerb (keyword : Text)
  | tooFewParameters
  | badName (name : Text) (fault : NameFault)
  | kindAndAlphabet
  | unknownKind (kind : Text)
  | repeatedName (name : Char)
  | noDelimiter
  | severalSources
  | badArrow (argument : Text)
  | noFileName
  | noDescription (name : Text)
  deriving DecidableEq, Repr

def Malformed.message : Malformed → Text
  | .unknownVerb keyword => "Unknown command \"" ++ keyword ++ "\""
  | .tooFewParameters =>
    "Too few parameters for command call; Use the 'help' command for a valid definition."
  | .badName name fault => "Invalid node name: " ++ quoted name ++ "\n\t" ++ fault.message
  | .kindAndAlphabet => "Invalid number of arguments, specify type and alphabet."
  | .unknownKind kind => upper kind ++ " is not a valid automaton type."
  | .repeatedName name => "Node " ++ [name] ++ " is listed more than once."
  | .noDelimiter => "No 'to' or '->' delimiter found."
  | .severalSources => "Only one node can be connected at a time."
  | .badArrow argument =>
    "Argument " ++ quoted argument ++ " does not match format <letter>:<target_name>."
  | .noFileName => "No file name given."
  | .noDescription name => "Cannot get description: " ++ name ++ " is not a valid command"

end AutomataShell
