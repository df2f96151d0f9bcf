import AutomataShell.Disk.Basic

/-! The places that lie along a path. -/

set_option autoImplicit false

namespace AutomataShell

open Text

/-- The place that a component leads to from another one. -/
def Place.next (here : Place) (name : Text) : Place :=
  if Path.isStep name then Path.descend here name else here

/-- All places on the way along components, the start included. -/
def Place.route (here : Place) : List Text → List Place
  | [] => [here]
  | name :: rest => here :: route (here.next name) rest

namespace Disk

/-- Every place that opening a path may look at. -/
def route (disk : Disk) (path : Text) : List Place :=
  Place.route (if path.head? = some '/' then [] else disk.directory) (pieces '/' path)

end Disk

end AutomataShell
