import AutomataShell.Machine.Construction
import AutomataShell.Machine.Description
import AutomataShell.Session.Refusal
import AutomataShell.Session.Reply

/-! Commands that name several nodes at once. Everything is checked against the machine as it
stands; then the nodes are added, connected or accepted one by one. Should one of these calls fail,
what the earlier ones did would stay. -/

set_option autoImplicit false

namespace AutomataShell.Machine

/-- What a command replies once its calls were made. -/
def Called.replying (called : Called Refusal Unit) (reply : Reply) : Called Refusal Reply :=
  (called.1.map fun _ => reply, called.2)

variable (machine : Machine)

/-- What a command replies that only looks at the machine. -/
def reading {α : Type} (found : Except MachineError α) (reply : α → Reply) :
    Called Refusal Reply :=
  ((found.mapError .machine).map reply, machine)

/-- The new names, none of which may have been listed before. -/
def checkNewNames : List Char → List Char → Except Refusal Unit
  | _, [] => .ok ()
  | listed, name :: rest =>
    match machine.checkNewNode (Label.ofChar name) with
    | .error why => .error (.machine why)
    | .ok _ =>
      if listed.contains name then
        .error (.malformed (.repeatedName name))
      else
        checkNewNames (name :: listed) rest

/-- Whether the source may be connected along letters to targets. -/
def checkArrows (source : Char) : List (Char × Char) → Except MachineError Unit
  | [] => .ok ()
  | (letter, target) :: rest =>
    match machine.checkEdge (Label.ofChar source) (Label.ofChar letter) (Label.ofChar target) with
    | .error why => .error why
    | .ok _ => checkArrows source rest

/-- Names of no node are refused all together. -/
def checkKnown (names : List Char) : Except MachineError Unit :=
  match names.filter fun name => !machine.nodes.contains name with
  | [] => .ok ()
  | unknown => .error (.unknownNodes (unknown.map Label.ofChar))

/-- Makes the calls of a command, once all that it names was found in order. -/
def callChecked (found : Except Refusal Unit) (calls : List (Machine → Called MachineError Unit)) :
    Called Refusal Unit :=
  match found with
  | .error why => (.error why, machine)
  | .ok () =>
    let called := machine.callAll calls
    (called.1.mapError .machine, called.2)

def addAll (names : List Char) : Called Refusal Unit :=
  machine.callChecked (machine.checkNewNames [] names)
    (names.map fun name reached => reached.addNode (Label.ofChar name) false)

def connectAll (source : Char) (arrows : List (Char × Char)) : Called Refusal Unit :=
  machine.callChecked ((machine.checkArrows source arrows).mapError .machine)
    (arrows.map fun arrow reached =>
      reached.connect (Label.ofChar source) (Label.ofChar arrow.1) (Label.ofChar arrow.2))

def acceptAll (names : List Char) : Called Refusal Unit :=
  machine.callChecked ((machine.checkKnown names).mapError .machine)
    (names.map fun name reached => reached.makeAccepting (Label.ofChar name))

def describeAll (names : List Char) : Except MachineError Text :=
  (names.mapM fun name => machine.describeNamed (Label.ofChar name)).map (Text.join "\n")

end AutomataShell.Machine
