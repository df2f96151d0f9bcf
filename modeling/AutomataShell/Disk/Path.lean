import AutomataShell.Disk.Error

/-! Paths as written, and the places that they name. -/

set_option autoImplicit false

namespace AutomataShell

open Text

/-- A place in the tree of files: the names from its root down. -/
abbrev Place := List Text

namespace Place

def shown (place : Place) : Text :=
  "/" ++ join "/" place

end Place

/-- A path without its empty components and dots. Its root is empty, or made of one or two slashes;
two slashes at the start stay apart from any other number. -/
structure Path where
  root : Text
  parts : List Text
  deriving DecidableEq, Repr

namespace Path

def rootOf (text : Text) : Text :=
  match text.takeWhile (· = '/') with
  | [] => []
  | ['/', '/'] => "//"
  | _ => "/"

/-- Whether a component leads away from the directory it is looked up in. -/
def isStep (part : Text) : Bool :=
  part != [] && part != ['.']

def ofText (text : Text) : Path :=
  ⟨rootOf text, (pieces '/' text).filter isStep⟩

def shown (path : Path) : Text :=
  match path.root ++ join "/" path.parts with
  | [] => "."
  | text => text

/-- A leading tilde stands for the home directory of the user that it names. -/
def expandHome (homes : List (Text × Place)) (path : Path) : Except Breakdown Path :=
  match path.root, path.parts with
  | [], ('~' :: user) :: rest =>
    if user.contains '\x00' then
      .error .nulInPath
    else
      match homes.lookup user with
      | some home => .ok ⟨"/", home ++ rest⟩
      | none => .error .unknownUser
  | _, _ => .ok path

/-- One component further. Two dots lead back, whatever is there. -/
def descend (here : Place) (part : Text) : Place :=
  if part = ['.', '.'] then here.dropLast else here ++ [part]

/-- The place that a path names when it is read from a directory. -/
def resolve (directory : Place) (path : Path) : Place :=
  path.parts.foldl descend (if path.root = [] then directory else [])

end Path

end AutomataShell
