import AutomataShell.Proofs.Session.Change

/-! The operations on a workspace, in any order. Between them the files may change in any way. -/

set_option autoImplicit false

namespace AutomataShell

inductive Operation where
  | line (command : Text)
  | script (script : Text)
  | importing (path : Text)
  | exporting (path : Text)
  | reset
  | close
  | refiling (disk : Disk)
  deriving DecidableEq, Repr

/-- The lines that an operation gives to a session, beside those of scripts. -/
def Operation.lines : Operation → List Text
  | .line command => [command]
  | _ => []

namespace Workspace

/-- The workspace after an operation, whether that was answered, refused or broke down. -/
def operate (workspace : Workspace) : Operation → Workspace
  | .line command => (workspace.execute command).2
  | .script script => (workspace.executeScript script).2
  | .importing path => (workspace.executeFile path).2
  | .exporting path => (workspace.exportFile path).2
  | .reset => workspace.update Session.reset
  | .close => workspace.update Session.close
  | .refiling disk => { workspace with disk }

def operateAll (operations : List Operation) (workspace : Workspace) : Workspace :=
  operations.foldl operate workspace

variable {allowed : Text → Prop}

theorem operate_changes
    (permitted : ∀ script commands, Script.expand script = .ok commands →
      ∀ line ∈ Script.splitCommands (Script.written commands), allowed (Text.trim line))
    (operation : Operation) (given : ∀ line ∈ operation.lines, allowed (Text.trim line))
    (workspace : Workspace) :
    Relation.ReflTransGen (Session.Change allowed) workspace.session
      (workspace.operate operation).session := by
  cases operation with
  | line command =>
    exact (runLine_changes (runTo_isRegular permitted _) (given command List.mem_cons_self)
      workspace).session
  | script script =>
    exact (runScript_changes (runTo_isRegular permitted _) permitted script workspace).session
  | importing path => exact (importFile_changes (runTo_isRegular permitted _) path workspace).session
  | exporting path => exact (exportFile_changes path workspace).session
  | reset => exact .single (.emptied _)
  | close => exact .single (.closed _)
  | refiling disk => exact .refl

theorem operateAll_changes
    (permitted : ∀ script commands, Script.expand script = .ok commands →
      ∀ line ∈ Script.splitCommands (Script.written commands), allowed (Text.trim line))
    {operations : List Operation}
    (given : ∀ operation ∈ operations, ∀ line ∈ operation.lines, allowed (Text.trim line))
    (workspace : Workspace) :
    Relation.ReflTransGen (Session.Change allowed) workspace.session
      (workspace.operateAll operations).session := by
  induction operations generalizing workspace with
  | nil => exact .refl
  | cons operation rest ih =>
    have first := operate_changes permitted operation (given operation List.mem_cons_self) workspace
    exact first.trans
      (ih (fun next member => given next (List.mem_cons_of_mem operation member)) _)

theorem isProper_operate {workspace : Workspace} (proper : workspace.disk.IsProper)
    {operation : Operation} (refiled : ∀ disk, operation = .refiling disk → disk.IsProper) :
    (workspace.operate operation).disk.IsProper := by
  have regular (depth : Nat) : (runTo depth).IsRegular fun _ => True := runTo_isRegular (by simp) depth
  cases operation with
  | line command => exact (runLine_changes (regular _) trivial workspace).isProper proper
  | script script =>
    exact (runScript_changes (regular _) (by simp) script workspace).isProper proper
  | importing path => exact (importFile_changes (regular _) path workspace).isProper proper
  | exporting path =>
    have changes : Changes (fun _ => True) workspace (workspace.exportFile path).2 :=
      exportFile_changes path workspace
    exact changes.isProper proper
  | reset | close => exact proper
  | refiling disk => exact refiled disk rfl

theorem isProper_operateAll {workspace : Workspace} (proper : workspace.disk.IsProper)
    {operations : List Operation}
    (refiled : ∀ disk, .refiling disk ∈ operations → disk.IsProper) :
    (workspace.operateAll operations).disk.IsProper := by
  induction operations generalizing workspace with
  | nil => exact proper
  | cons operation rest ih =>
    have first : (workspace.operate operation).disk.IsProper :=
      isProper_operate proper fun disk same => refiled disk (by simp [same])
    exact ih first fun disk member => refiled disk (List.mem_cons_of_mem operation member)

end Workspace

end AutomataShell
