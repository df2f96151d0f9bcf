import AutomataShell.Session.Run

/-! What a workspace can be asked to do: run a line, a script or a file, or check a script without
touching the session. -/

set_option autoImplicit false

namespace AutomataShell.Workspace

/-- How deep imports may nest in a run that makes a number of exports itself. The imports in progress
are files, each but once: those of the disk, those exports, and at most one file that an imported
script has written. Such a file imports nothing, because its lines all begin with verbs that rebuild
a machine. -/
def importDepth (exports : Nat) (workspace : Workspace) : Nat :=
  workspace.disk.fileCount + exports + 1

/-- Runs a line. It cannot both export and import. -/
def execute (line : Text) (workspace : Workspace) : Outcome Refusal (Except Refusal Reply) :=
  workspace.runLine (runTo (workspace.importDepth 0)) line

/-- Runs a script. It has fewer exports than characters. -/
def executeScript (script : Text) (workspace : Workspace) : Outcome Refusal BatchResult :=
  workspace.runScript (runTo (workspace.importDepth script.length)) script

/-- Runs a file in a session without machine and record. -/
def executeFile (path : Text) (workspace : Workspace) : Outcome Refusal BatchResult :=
  workspace.importFile (runTo (workspace.importDepth 0)) path

/-- Runs a script in a session of its own. The files are the same. -/
def check (script : Text) (workspace : Workspace) : Outcome Refusal BatchResult :=
  let (result, left) := ({ workspace with session := .fresh }).executeScript script
  (result, { left with session := workspace.session })

end AutomataShell.Workspace
