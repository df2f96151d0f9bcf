import AutomataShell.Disk.Route
import AutomataShell.Session.Run

/-! The files that a script names. -/

set_option autoImplicit false

namespace AutomataShell

open Text

/-- The path of the file that an export writes, once the home directory is filled in. -/
def exportTarget (disk : Disk) (path : Text) : Option Text :=
  match (Path.ofText path).expandHome disk.homes with
  | .ok target => some target.shown
  | .error _ => none

def importSource (disk : Disk) (path : Text) : Option Text :=
  match Workspace.importPlace path disk with
  | .ok place => some place.shown
  | .error _ => none

/-- The path that a command opens, if it opens one. -/
def openedBy (disk : Disk) (command : Text) : Option Text :=
  let (keyword, path) := keywordOf command
  match Verb.ofKeyword keyword with
  | some .exportFile => exportTarget disk path
  | some .importFile => importSource disk path
  | _ => none

/-- The paths that the commands of a script open. -/
def openedPaths (disk : Disk) (script : Text) : List Text :=
  match Script.preprocess script with
  | .ok expanded => (Script.splitCommands expanded).filterMap (openedBy disk)
  | .error _ => []

end AutomataShell
