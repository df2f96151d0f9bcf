import AutomataShell.Command.Arguments
import AutomataShell.Session.Basic
import AutomataShell.Session.Edit

/-! Running commands and scripts. An imported script runs in the session of the command that imports
it, so the runner of a script is built from the runner of the scripts it imports. -/

set_option autoImplicit false

namespace AutomataShell

open Text

/-- The outcome of an action, and the workspace that it leaves. -/
abbrev Outcome (Reason α : Type) := Except (Failure Reason) α × Workspace

/-- A way to run the text of a script. -/
abbrev Runner := Text → Workspace → Outcome Refusal BatchResult

/-- The help on a verb or a directive. -/
def describe (name : Text) : Except Malformed Text :=
  match Verb.ofKeyword (lower name) with
  | some verb => .ok verb.usage
  | none =>
    match Script.Directive.describe name with
    | some description => .ok description
    | none => .error (.noDescription name)

/-- The help on a topic. No topic asks for the list of keywords. -/
def helpOn (topic : Text) : Text :=
  if topic = [] then
    keywordHelp
  else
    match describe topic with
    | .ok description => description
    | .error _ => "Invalid command; " ++ keywordHelp

/-- What the definitions of a script leave in the journal. -/
def definitionEvent : Script.Definition → Event
  | .flag name => .defined name
  | .renaming old new => .renamed old new

namespace Workspace

/-- Carries out a command on the machine. What the command leaves of the machine is kept, even when
it is refused. -/
def edit (change : Machine → Machine.Called Refusal Reply) (workspace : Workspace) :
    Outcome Refusal Reply :=
  match workspace.session.machine with
  | none => (.error (.refused .noMachine), workspace)
  | some machine =>
    let (answer, left) := change machine
    (answer.mapError .refused, workspace.update fun session => session.replaceMachine left)

def create (kind : Kind) (symbols : List Char) (workspace : Workspace) : Outcome Refusal Reply :=
  match Machine.create kind (some (symbols.map Label.ofChar)) with
  | .error why => (.error (.refused (.machine why)), workspace)
  | .ok machine => (.ok .created, workspace.update fun session => session.adopt machine)

/-- Writes the lines that rebuild the machine to a file, and tells their number. -/
def exportFile (path : Text) (workspace : Workspace) : Outcome FileError Nat :=
  match (Path.ofText path).expandHome workspace.disk.homes with
  | .error why => (.error (.broke why), workspace)
  | .ok target =>
    let lines := workspace.session.exportable
    match workspace.disk.writeText target.shown (Script.written lines) with
    | .error failure => (.error failure, workspace)
    | .ok disk => (.ok lines.length, { workspace with disk }.log (.exported lines.length target.shown))

/-- The place from which a path imports. -/
def importPlace (path : Text) (disk : Disk) : Except Breakdown Place :=
  match (Path.ofText path).expandHome disk.homes with
  | .error why => .error why
  | .ok source =>
    if path.contains '\x00' then .error .nulInPath else .ok (source.resolve disk.directory)

/-- Runs the text of an import that was opened, in a session without machine and record. -/
def runImported (nested : Runner) (path : Text) (place : Place) (script : Text)
    (workspace : Workspace) : Outcome Refusal BatchResult :=
  let opened := (workspace.log (.importing place)).update fun session =>
    session.reset.beginImport place
  match nested script opened with
  | (.error failure, left) => (.error failure, left.update Session.endImport)
  | (.ok result, left) =>
    match result.failure with
    | none => (.ok result, left.update Session.endImport)
    | some failure =>
      (.error (.refused (.importFailed path failure.position failure.why)),
        left.update Session.endImport)

/-- Runs a file. A file that is being imported already is refused. -/
def importFile (nested : Runner) (path : Text) (workspace : Workspace) :
    Outcome Refusal BatchResult :=
  match importPlace path workspace.disk with
  | .error why => (.error (.broke why), workspace)
  | .ok place =>
    if workspace.session.importing.contains place then
      (.error (.refused (.importCycle path)), workspace)
    else
      match workspace.disk.readText place.shown with
      | .error failure => (.error (failure.map .file), workspace)
      | .ok script => runImported nested path place script workspace

/-- Carries out a command. -/
def perform (nested : Runner) (workspace : Workspace) : Command → Outcome Refusal Reply
  | .create kind symbols => workspace.create kind symbols
  | .add names =>
    workspace.edit fun machine => (machine.addAll names).replying (.added names)
  | .connect source arrows =>
    workspace.edit fun machine => (machine.connectAll source arrows).replying .connected
  | .accept names =>
    workspace.edit fun machine => (machine.acceptAll names).replying (.accepted names)
  | .execute word =>
    workspace.edit fun machine => machine.reading (machine.accepts word) (.judged word)
  | .displayAll =>
    workspace.edit fun machine => machine.reading (.ok machine.describe) .described
  | .display names =>
    workspace.edit fun machine => machine.reading (machine.describeAll names) .described
  | .help topic => (.ok (.helped (helpOn topic)), workspace)
  | .exportFile path =>
    match workspace.exportFile path with
    | (.error failure, left) => (.error (failure.map .file), left)
    | (.ok _, left) => (.ok .exported, left)
  | .importFile path =>
    match importFile nested path workspace with
    | (.error failure, left) => (.error failure, left)
    | (.ok _, left) => (.ok .imported, left)
  | .exit => (.ok .closing, workspace.update Session.close)

/-- Finds the verb of a trimmed line, reads its arguments, and carries the command out. -/
def dispatch (nested : Runner) (line : Text) (workspace : Workspace) : Outcome Refusal Reply :=
  let (keyword, arguments) := keywordOf line
  match Verb.ofKeyword keyword with
  | none => (.error (.refused (.malformed (.unknownVerb keyword))), workspace)
  | some verb =>
    -- A missing machine is reported before anything that is wrong with the arguments.
    if verb.needsMachine && workspace.session.machine.isNone then
      (.error (.refused .noMachine), workspace)
    else
      match Command.read verb arguments with
      | .error why => (.error (.refused (.malformed why)), workspace)
      | .ok command => workspace.perform nested command

/-- Runs one line. Only a closed session and a breakdown keep a line from being answered. -/
def runLine (nested : Runner) (line : Text) (workspace : Workspace) :
    Outcome Refusal (Except Refusal Reply) :=
  if workspace.session.closed then
    (.error (.refused .closed), workspace)
  else
    match (workspace.log (.dispatched (trim line))).dispatch nested (trim line) with
    | (.ok reply, left) =>
      -- The line comes after whatever the command itself did to the record.
      (.ok (.ok reply), left.update fun session => (session.remember (trim line)).note true)
    | (.error (.refused why), left) =>
      (.ok (.error why),
        (left.log (.failed (trim line) why.message)).update fun session => session.note false)
    | (.error (.broke why), left) => (.error (.broke why), left)

/-- Runs lines, counted from a number on, until one fails or closes the session. -/
def runLines (nested : Runner) : Nat → List Text → Workspace → Outcome Refusal BatchResult
  | _, [], workspace => (.ok ⟨[], none⟩, workspace.update fun session => session.note true)
  | index, line :: rest, workspace =>
    if workspace.session.closed then
      (.ok ⟨[], none⟩, workspace.update fun session => session.note true)
    else
      match workspace.runLine nested line with
      | (.error failure, left) => (.error failure, left)
      | (.ok (.error why), left) => (.ok ⟨[], some ⟨some ⟨index, line⟩, why⟩⟩, left)
      | (.ok (.ok reply), left) =>
        match runLines nested (index + 1) rest left with
        | (.error failure, final) => (.error failure, final)
        | (.ok result, final) => (.ok { result with replies := reply :: result.replies }, final)

/-- Ends a script that never came to run a command. -/
def refuseScript (why : Refusal) (workspace : Workspace) : Outcome Refusal BatchResult :=
  (.ok (.failed why), workspace.update fun session => session.note false)

/-- Expands a script and runs its commands. -/
def runScript (nested : Runner) (script : Text) (workspace : Workspace) :
    Outcome Refusal BatchResult :=
  if workspace.session.closed then
    (.error (.refused .closed), workspace)
  else if script.all isBlank then
    workspace.refuseScript .noText
  else
    let (expanded, fault) := Script.expansion script
    let told := workspace.logAll (expanded.definitionsInOrder.map definitionEvent)
    -- What was defined before a fault has been told already.
    match fault with
    | some why => told.refuseScript (.script why)
    | none => told.runLines nested 1 (Script.splitCommands (Script.written expanded.commandsInOrder))

/-- Runs scripts that import scripts down to a depth. -/
def runTo : Nat → Runner
  | 0 => fun _ workspace => (.error (.broke .importsTooDeep), workspace)
  | depth + 1 => runScript (runTo depth)

/-- A closed session refuses every line and stays as it is. -/
theorem runLine_of_closed (nested : Runner) (line : Text) {workspace : Workspace}
    (isClosed : workspace.session.closed = true) :
    workspace.runLine nested line = (.error (.refused .closed), workspace) := by
  rw [runLine, if_pos isClosed]

theorem runScript_of_closed (nested : Runner) (script : Text) {workspace : Workspace}
    (isClosed : workspace.session.closed = true) :
    workspace.runScript nested script = (.error (.refused .closed), workspace) := by
  rw [runScript, if_pos isClosed]

theorem runLines_of_closed (nested : Runner) (index : Nat) (lines : List Text)
    {workspace : Workspace} (isClosed : workspace.session.closed = true) :
    workspace.runLines nested index lines =
      (.ok ⟨[], none⟩, workspace.update fun session => session.note true) := by
  cases lines with
  | nil => rfl
  | cons line rest => rw [runLines, if_pos isClosed]

/-- A line is answered only in an open session. -/
theorem isOpen_of_answered {nested : Runner} {line : Text} {workspace : Workspace}
    {answer : Except Refusal Reply} (answered : (workspace.runLine nested line).1 = .ok answer) :
    workspace.session.closed = false := by
  rw [← Bool.not_eq_true]
  intro isClosed
  rw [runLine_of_closed _ _ isClosed] at answered
  cases answered

/-- What every line keeps, and the note of the last success, is kept by all lines together. -/
theorem runLines_keeps {nested : Runner} {P : Workspace → Prop} {lines : List Text}
    (noted : ∀ workspace successful, P workspace →
      P (workspace.update fun session => session.note successful))
    (kept : ∀ line ∈ lines, ∀ workspace, P workspace → P (workspace.runLine nested line).2)
    (index : Nat) {workspace : Workspace} (holds : P workspace) :
    P (workspace.runLines nested index lines).2 := by
  induction lines generalizing index workspace with
  | nil => exact noted workspace true holds
  | cons line rest ih =>
    have ran := kept line List.mem_cons_self workspace holds
    unfold runLines
    split
    · exact noted workspace true holds
    · -- Broken down, refused or answered: only the last goes on with the other lines.
      split
      · rename_i failure left same
        rwa [same] at ran
      · rename_i why left same
        rwa [same] at ran
      · rename_i reply left same
        rw [same] at ran
        have ranRest := ih (fun next member => kept next (List.mem_cons_of_mem line member))
          (index + 1) ran
        split <;> rename_i final ended <;> rwa [ended] at ranRest

end Workspace

end AutomataShell
