import AutomataShell.Proofs.Session.Importing
import AutomataShell.Proofs.Session.Operation

/-! The calls in progress while a session works. A line that imports calls for a file, the file for its
script, and a script for its lines, one after the other. A line that does not get as far as its command,
and a file that does not get as far as its script, leave everything as it was. -/

set_option autoImplicit false

namespace AutomataShell

open Script Text

theorem Command.read_eq_importFile_iff {verb : Verb} {arguments path : Text} :
    Command.read verb arguments = .ok (.importFile path) ↔
      verb = .importFile ∧ Command.readPath arguments = .ok path := by
  constructor
  · intro read
    have isImport : .importFile = verb := Command.verb_of_read read
    subst isImport
    obtain ⟨named, readPath, same⟩ := Command.map_eq_ok_iff.1 read
    cases same
    exact ⟨rfl, readPath⟩
  · rintro ⟨rfl, named⟩
    exact Command.map_eq_ok_iff.2 ⟨path, named, rfl⟩

/-- What a session is asked to run. -/
inductive Call where
  | line (command : Text)
  | script (text : Text)
  | file (path : Text)
  deriving DecidableEq, Repr

namespace Call

def operation : Call → Operation
  | .line command => .line command
  | .script text => .script text
  | .file path => .importing path

/-- The path of the file that a call is an import of. -/
def importedPath : Call → Option Text
  | .line command =>
    let (keyword, arguments) := keywordOf (trim command)
    if Verb.ofKeyword keyword = some .importFile then (Command.readPath arguments).toOption else none
  | .script _ => none
  | .file path => some path

end Call

/-- The result of lines that come after some others. -/
def BatchResult.after (earlier : List Reply) (result : BatchResult) : BatchResult :=
  { result with replies := earlier ++ result.replies }

/-- A call with the depth for the imports in it, and the workspace that it finds. -/
structure Frame where
  depth : Nat
  call : Call
  workspace : Workspace

namespace Workspace

/-- Lines that are all answered, one after the other. -/
inductive Passes (nested : Runner) : List Text → Workspace → Workspace → Prop where
  | nil (workspace : Workspace) : Passes nested [] workspace workspace
  | cons {line : Text} {rest : List Text} {workspace left final : Workspace} {reply : Reply}
      (ran : workspace.runLine nested line = (.ok (.ok reply), left))
      (passes : Passes nested rest left final) : Passes nested (line :: rest) workspace final

/-- The workspace in which the script of a file begins. -/
def opened (place : Place) (workspace : Workspace) : Workspace :=
  (workspace.log (.importing place)).update fun session => session.reset.beginImport place

variable (nested : Runner) (workspace : Workspace)

theorem dispatch_cases (line : Text) :
    (workspace.dispatch nested line).2 = workspace ∨
      ∃ verb command, Verb.ofKeyword (keywordOf line).1 = some verb ∧
        Command.read verb (keywordOf line).2 = .ok command ∧
          workspace.dispatch nested line = workspace.perform nested command := by
  unfold dispatch
  simp only
  split
  · exact .inl rfl
  · rename_i verb known
    split
    · exact .inl rfl
    · split
      · exact .inl rfl
      · rename_i command read
        exact .inr ⟨verb, command, known, read, rfl⟩

theorem importFile_cases (path : Text) :
    (∃ failure, workspace.importFile nested path = (.error failure, workspace)) ∨
      ∃ place script, importPlace path workspace.disk = .ok place ∧
        place ∉ workspace.session.importing ∧ workspace.disk.readText place.shown = .ok script ∧
          workspace.importFile nested path = workspace.runImported nested path place script := by
  unfold importFile
  split
  · exact .inl ⟨_, rfl⟩
  · rename_i place found
    split
    · exact .inl ⟨_, rfl⟩
    · rename_i idle
      split
      · exact .inl ⟨_, rfl⟩
      · rename_i script stored
        exact .inr ⟨place, script, found, by simpa using idle, stored, rfl⟩

/-- Whatever became of the script of a file, its import is the one that ends. -/
theorem runImported_snd (path : Text) (place : Place) (script : Text) :
    (workspace.runImported nested path place script).2 =
      (nested script (workspace.opened place)).2.update Session.endImport := by
  unfold runImported opened
  simp only
  split
  · rename_i failure left ran
    rw [ran]
  · rename_i result left ran
    rw [ran]
    split <;> rfl

variable {nested workspace}

theorem runLines_cons_of_answered {line : Text} {reply : Reply} {left : Workspace}
    (ran : workspace.runLine nested line = (.ok (.ok reply), left)) (index : Nat)
    (rest : List Text) :
    workspace.runLines nested index (line :: rest) =
      (left.runLines nested (index + 1) rest).map (Except.map (BatchResult.after [reply])) id := by
  have isOpen : workspace.session.closed = false := isOpen_of_answered (congrArg Prod.fst ran)
  rw [runLines, if_neg (by simp [isOpen]), ran]
  simp only
  generalize left.runLines nested (index + 1) rest = outcome
  obtain ⟨_ | result, final⟩ := outcome <;> rfl

/-- The line at which a run of lines has failed. -/
theorem exists_refused_line {index : Nat} {lines : List Text} {result : BatchResult}
    {failure : BatchFailure} (answered : (workspace.runLines nested index lines).1 = .ok result)
    (failed : result.failure = some failure) :
    ∃ before line after reached, lines = before ++ line :: after ∧
      Passes nested before workspace reached ∧ reached.session.closed = false ∧
        (reached.runLine nested line).1 = .ok (.error failure.why) ∧
          failure.position = some ⟨index + before.length, line⟩ := by
  induction lines generalizing index workspace result with
  | nil =>
    cases answered
    cases failed
  | cons line rest ih =>
    unfold runLines at answered
    split at answered
    · cases answered
      cases failed
    · rename_i isOpen
      split at answered
      · cases answered
      · rename_i why left ran
        cases answered
        cases failed
        exact ⟨[], line, rest, workspace, rfl, .nil workspace, by simpa using isOpen,
          congrArg Prod.fst ran, rfl⟩
      · rename_i reply left ran
        split at answered
        · cases answered
        · rename_i later final ended
          cases answered
          obtain ⟨before, other, after, reached, same, passes, stillOpen, refused, position⟩ :=
            ih (congrArg Prod.fst ended) failed
          refine ⟨line :: before, other, after, reached, by rw [same, List.cons_append],
            .cons ran passes, stillOpen, refused, ?_⟩
          rw [position, List.length_cons, Nat.add_right_comm, Nat.add_assoc]

end Workspace

/-- The frame of a call that no other call has made. -/
def Call.outermost (call : Call) (workspace : Workspace) : Frame where
  depth :=
    match call with
    | .script text => workspace.importDepth text.length
    | .line _ | .file _ => workspace.importDepth 0
  call := call
  workspace := workspace

def answerRefusal : Except Refusal Reply → Option Refusal
  | .ok _ => none
  | .error why => some why

def BatchResult.refusal (result : BatchResult) : Option Refusal :=
  result.failure.map BatchFailure.why

namespace Frame

open Workspace

/-- What comes of a call. It raises an error, or it answers with a refusal or with success. -/
def run (frame : Frame) : Outcome Refusal (Option Refusal) :=
  match frame.call with
  | .line command =>
    (frame.workspace.runLine (runTo frame.depth) command).map (Except.map answerRefusal) id
  | .script text =>
    (frame.workspace.runScript (runTo frame.depth) text).map (Except.map BatchResult.refusal) id
  | .file path =>
    (frame.workspace.importFile (runTo frame.depth) path).map (Except.map BatchResult.refusal) id

section

variable (depth : Nat) (workspace : Workspace)

theorem run_line (line : Text) :
    run ⟨depth, .line line, workspace⟩ =
      (workspace.runLine (runTo depth) line).map (Except.map answerRefusal) id := rfl

theorem run_script (script : Text) :
    run ⟨depth, .script script, workspace⟩ =
      (workspace.runScript (runTo depth) script).map (Except.map BatchResult.refusal) id := rfl

theorem run_file (path : Text) :
    run ⟨depth, .file path, workspace⟩ =
      (workspace.importFile (runTo depth) path).map (Except.map BatchResult.refusal) id := rfl

end

def Succeeds (frame : Frame) : Prop :=
  frame.run.1 = .ok none

def IsRefused (frame : Frame) (why : Refusal) : Prop :=
  frame.run.1 = .ok (some why) ∨ frame.run.1 = .error (.refused why)

/-- The place of a file that is being imported. -/
def place? (frame : Frame) : Option Place :=
  match frame.call with
  | .file path => (importPlace path frame.workspace.disk).toOption
  | .line _ | .script _ => none

/-- The calls that a call makes while it runs. -/
inductive Calls : Frame → Frame → Prop where
  | file {depth : Nat} {line path : Text} {workspace : Workspace}
      (isOpen : workspace.session.closed = false)
      (isImport : Verb.ofKeyword (keywordOf (trim line)).1 = some .importFile)
      (named : Command.readPath (keywordOf (trim line)).2 = .ok path) :
      Calls ⟨depth, .line line, workspace⟩
        ⟨depth, .file path, workspace.log (.dispatched (trim line))⟩
  | script {depth : Nat} {path script : Text} {place : Place} {workspace : Workspace}
      (found : importPlace path workspace.disk = .ok place)
      (idle : place ∉ workspace.session.importing)
      (stored : workspace.disk.readText place.shown = .ok script) :
      Calls ⟨depth + 1, .file path, workspace⟩ ⟨depth, .script script, workspace.opened place⟩
  | line {depth : Nat} {script line : Text} {before after : List Text}
      {workspace reached : Workspace} (isOpen : workspace.session.closed = false)
      (isText : script.all isBlank = false) (commands : commandsOf script = before ++ line :: after)
      (passes : Passes (runTo depth) before (workspace.told script) reached)
      (stillOpen : reached.session.closed = false) :
      Calls ⟨depth, .script script, workspace⟩ ⟨depth, .line line, reached⟩

/-- The calls in progress, the latest first. Each was made by the one behind it. -/
inductive InProgress (outermost : Frame) : List Frame → Prop where
  | first : InProgress outermost [outermost]
  | next {frame caller : Frame} {callers : List Frame}
      (inProgress : InProgress outermost (caller :: callers)) (calls : caller.Calls frame) :
      InProgress outermost (frame :: caller :: callers)

end Frame

theorem Workspace.operate_operation (call : Call) (workspace : Workspace) :
    workspace.operate call.operation = (call.outermost workspace).run.2 := by
  cases call <;> rfl

end AutomataShell
