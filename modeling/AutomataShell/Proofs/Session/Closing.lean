import AutomataShell.Proofs.Session.Calling

/-! Closed sessions. A line that exits ends all calls around it at once, each of them with success, and
a session that is closed stays so, without a machine and with nothing recorded. -/

set_option autoImplicit false

namespace AutomataShell

open Script Text

/-- Closed, and with nothing left. -/
structure Session.IsShut (session : Session) : Prop where
  closed : session.closed = true
  machine : session.machine = none
  record : session.record = []

namespace Session

variable {allowed : Text → Prop} {session next : Session}

theorem IsShut.note (shut : session.IsShut) (successful : Bool) :
    (session.note successful).IsShut :=
  ⟨shut.closed, shut.machine, shut.record⟩

theorem IsShut.endImport (shut : session.IsShut) : session.endImport.IsShut :=
  ⟨shut.closed, shut.machine, shut.record⟩

/-- A line that is run to its end in a closed session finds no record to be added to. -/
theorem IsShut.remember (shut : session.IsShut) (line : Text) : (session.remember line).IsShut := by
  rw [remember_of_closed _ _ shut.closed]
  exact shut

theorem IsShut.change (shut : session.IsShut) (step : Change allowed session next) :
    next.IsShut := by
  cases step with
  | noted successful => exact shut.note successful
  | importBegun => exact ⟨shut.closed, shut.machine, shut.record⟩
  | importEnded => exact shut.endImport
  | emptied => exact ⟨shut.closed, rfl, rfl⟩
  | closed => exact ⟨rfl, rfl, rfl⟩
  | recorded => exact shut.remember _
  | rebuilt isOpen =>
    rw [shut.closed] at isOpen
    cases isOpen

/-- Only a step that empties the session closes it. -/
theorem isShut_of_change (step : Change allowed session next) (isOpen : session.closed = false)
    (isClosed : next.closed = true) : next.IsShut := by
  cases step with
  | noted | importBegun | importEnded | emptied =>
    rw [show session.closed = true from isClosed] at isOpen
    cases isOpen
  | closed => exact ⟨rfl, rfl, rfl⟩
  | recorded =>
    rw [remember, if_neg (by simp [isOpen])] at isClosed
    cases isOpen.symm.trans isClosed
  | rebuilt =>
    rw [Effect.after_eq _ _ _ isOpen] at isClosed
    cases isClosed

theorem isShut_of_changes (steps : Relation.ReflTransGen (Change allowed) session next)
    (before : session.closed = true → session.IsShut) (isClosed : next.closed = true) :
    next.IsShut := by
  induction steps with
  | refl => exact before isClosed
  | @tail reached next _ step ih =>
    cases wasClosed : reached.closed with
    | true => exact (ih wasClosed).change step
    | false => exact isShut_of_change step wasClosed isClosed

theorem IsShut.changes (shut : session.IsShut)
    (steps : Relation.ReflTransGen (Change allowed) session next) : next.IsShut := by
  induction steps with
  | refl => exact shut
  | tail _ step ih => exact ih.change step

end Session

def Call.IsExit : Call → Prop
  | .line command => Verb.ofKeyword (keywordOf (trim command)).1 = some .exit
  | .script _ | .file _ => False

instance : DecidablePred Call.IsExit
  | .line _ => inferInstanceAs (Decidable (_ = _))
  | .script _ | .file _ => instDecidableFalse

namespace Workspace

variable {nested : Runner} {workspace left : Workspace}

theorem runLine_exit (nested : Runner) {line : Text} (isExit : (Call.line line).IsExit)
    (isOpen : workspace.session.closed = false) :
    ∃ left, workspace.runLine nested line = (.ok (.ok .closing), left) ∧ left.session.IsShut := by
  have isExit : Verb.ofKeyword (keywordOf (trim line)).1 = some .exit := isExit
  let left := ((workspace.log (.dispatched (trim line))).update Session.close).update
    fun session => (session.remember (trim line)).note true
  refine ⟨left, ?_, rfl, rfl, rfl⟩
  unfold runLine
  rw [if_neg (by simp [isOpen])]
  simp only [dispatch, isExit, Verb.needsMachine, Bool.false_and, Bool.false_eq_true, if_false,
    Command.read, perform, left]

/-- Lines that have been answered are followed by the lines after them. -/
theorem runLines_append {before : List Text} {reached : Workspace}
    (passes : Passes nested before workspace reached) (index : Nat) {after : List Text}
    {result : BatchResult} {final : Workspace}
    (ran : reached.runLines nested (index + before.length) after = (.ok result, final)) :
    ∃ replies, workspace.runLines nested index (before ++ after) =
      (.ok { result with replies }, final) := by
  induction passes generalizing index with
  | nil => exact ⟨result.replies, ran⟩
  | @cons line rest workspace left reached reply ranLine _ ih =>
    rw [List.length_cons, Nat.add_comm rest.length, ← Nat.add_assoc] at ran
    obtain ⟨replies, ranRest⟩ := ih (index + 1) ran
    refine ⟨reply :: replies, ?_⟩
    rw [List.cons_append, runLines_cons_of_answered ranLine, ranRest]
    rfl

/-- A line that closes the session is the last one. -/
theorem runLines_of_shut {line : Text} {reply : Reply}
    (ran : workspace.runLine nested line = (.ok (.ok reply), left))
    (isClosed : left.session.closed = true) (index : Nat) (after : List Text) :
    workspace.runLines nested index (line :: after) =
      (.ok ⟨[reply], none⟩, left.update fun session => session.note true) := by
  rw [runLines_cons_of_answered ran, runLines_of_closed _ _ _ isClosed]
  rfl

/-- A line whose file is imported is answered. -/
theorem runLine_of_imported {line path : Text} {result : BatchResult}
    (isOpen : workspace.session.closed = false)
    (isImport : Verb.ofKeyword (keywordOf (trim line)).1 = some .importFile)
    (named : Command.readPath (keywordOf (trim line)).2 = .ok path)
    (imported : (workspace.log (.dispatched (trim line))).importFile nested path =
      (.ok result, left)) :
    workspace.runLine nested line = (.ok (.ok .imported), left.update fun session =>
      (session.remember (trim line)).note true) := by
  have read : Command.read .importFile (keywordOf (trim line)).2 = .ok (.importFile path) :=
    Command.read_eq_importFile_iff.2 ⟨rfl, named⟩
  unfold runLine
  rw [if_neg (by simp [isOpen])]
  simp only [dispatch, isImport, Verb.needsMachine, Bool.false_and, Bool.false_eq_true, if_false,
    read, perform, imported]

/-- A file whose script succeeds is imported. -/
theorem importFile_of_succeeded (nested : Runner) {path script : Text} {place : Place}
    {result : BatchResult} (found : importPlace path workspace.disk = .ok place)
    (idle : place ∉ workspace.session.importing)
    (stored : workspace.disk.readText place.shown = .ok script)
    (ran : nested script (workspace.opened place) = (.ok result, left))
    (succeeded : result.failure = none) :
    workspace.importFile nested path = (.ok result, left.update Session.endImport) := by
  have idle : workspace.session.importing.contains place = false := by simpa using idle
  unfold opened at ran
  simp only [importFile, found, idle, Bool.false_eq_true, if_false, stored, runImported, ran,
    succeeded]

/-- A script succeeds with the line that closes the session, whatever lines are after it. -/
theorem runScript_of_shut {script line : Text} {before after : List Text} {reached : Workspace}
    {reply : Reply} (isOpen : workspace.session.closed = false)
    (isText : script.all isBlank = false)
    (commands : Script.commandsOf script = before ++ line :: after)
    (passes : Passes nested before (workspace.told script) reached)
    (ran : reached.runLine nested line = (.ok (.ok reply), left))
    (isClosed : left.session.closed = true) :
    ∃ replies, workspace.runScript nested script =
      (.ok ⟨replies, none⟩, left.update fun session => session.note true) := by
  obtain ⟨replies, same⟩ := runLines_append passes 1 (runLines_of_shut ran isClosed _ after)
  refine ⟨replies, ?_⟩
  rw [runScript_of_commands isOpen isText (by simp [commands]), commands]
  exact same

/-- The session is shut, and since a workspace nothing more has happened: the journal tells of every
line that is run. -/
structure ShutSince (exited left : Workspace) : Prop where
  shut : left.session.IsShut
  journal : left.journal = exited.journal
  disk : left.disk = exited.disk

theorem ShutSince.update {exited : Workspace} (since : exited.ShutSince left)
    {change : Session → Session} (kept : (change left.session).IsShut) :
    exited.ShutSince (left.update change) :=
  ⟨kept, since.journal, since.disk⟩

end Workspace

namespace Frame

open Workspace

/-- A call that succeeds with the session shut, and does nothing more after some workspace. -/
def Shuts (frame : Frame) (exited : Workspace) : Prop :=
  ∃ left, frame.run = (.ok none, left) ∧ exited.ShutSince left

/-- What a call that succeeds has worked with. -/
theorem eq_of_map_eq_none {α : Type} {outcome : Outcome Refusal α} {refusalOf : α → Option Refusal}
    {left : Workspace} (succeeds : outcome.map (Except.map refusalOf) id = (.ok none, left)) :
    ∃ value, outcome = (.ok value, left) ∧ refusalOf value = none := by
  obtain ⟨_ | value, final⟩ := outcome
  · cases succeeds
  · obtain ⟨refusal, rfl⟩ := Prod.mk.inj succeeds
    exact ⟨value, rfl, Except.ok.inj refusal⟩

theorem shuts_of_isExit {frame : Frame} (isExit : frame.call.IsExit)
    (isOpen : frame.workspace.session.closed = false) : frame.Shuts frame.run.2 := by
  obtain ⟨depth, call, workspace⟩ := frame
  cases call with
  | line line =>
    obtain ⟨left, ran, shut⟩ := runLine_exit (runTo depth) isExit isOpen
    have same : run ⟨depth, .line line, workspace⟩ = (.ok none, left) := by
      rw [run_line, ran]
      rfl
    rw [same]
    exact ⟨left, same, shut, rfl, rfl⟩
  | script | file => cases isExit

/-- What shuts the session ends the call around it with success, and at once. -/
theorem Calls.shuts {caller frame : Frame} {exited : Workspace} (calls : caller.Calls frame)
    (shuts : frame.Shuts exited) : caller.Shuts exited := by
  obtain ⟨left, succeeds, since⟩ := shuts
  cases calls with
  | @file depth line path workspace isOpen isImport named =>
    rw [run_file] at succeeds
    obtain ⟨result, imported, _⟩ := eq_of_map_eq_none succeeds
    have ran := runLine_of_imported isOpen isImport named imported
    have kept : exited.ShutSince (left.update fun session =>
        (session.remember (trim line)).note true) :=
      since.update ((since.shut.remember _).note true)
    refine ⟨_, ?_, kept⟩
    rw [run_line, ran]
    rfl
  | @script depth path script place workspace found idle stored =>
    rw [run_script] at succeeds
    obtain ⟨result, ran, succeeded⟩ := eq_of_map_eq_none succeeds
    have imported := importFile_of_succeeded (runTo (depth + 1)) found idle stored ran
      (Option.map_eq_none_iff.1 succeeded)
    refine ⟨left.update Session.endImport, ?_, since.update since.shut.endImport⟩
    rw [run_file, imported, ← succeeded]
    rfl
  | @line depth script line before after workspace reached isOpen isText commands passes stillOpen =>
    rw [run_line] at succeeds
    obtain ⟨answer, ran, succeeded⟩ := eq_of_map_eq_none succeeds
    cases answer with
    | error why => cases succeeded
    | ok reply =>
      obtain ⟨replies, ranScript⟩ :=
        runScript_of_shut isOpen isText commands passes ran since.shut.closed
      refine ⟨left.update fun session => session.note true, ?_, since.update (since.shut.note true)⟩
      rw [run_script, ranScript]
      rfl

/-- An exit ends all calls in progress, each with success. -/
theorem InProgress.shuts {outermost frame : Frame} {callers : List Frame}
    (inProgress : InProgress outermost (frame :: callers)) {exited : Workspace}
    (shuts : frame.Shuts exited) : ∀ caller ∈ frame :: callers, caller.Shuts exited := by
  generalize same : frame :: callers = frames at inProgress
  induction inProgress generalizing frame callers with
  | first =>
    cases same
    simpa using shuts
  | @next called caller behind _ calls ih =>
    cases same
    exact List.forall_mem_cons.2 ⟨shuts, ih (calls.shuts shuts) rfl⟩

theorem InProgress.outermost_mem {outermost : Frame} {frames : List Frame}
    (inProgress : InProgress outermost frames) : outermost ∈ frames := by
  induction inProgress with
  | first => exact List.mem_cons_self
  | next _ _ ih => exact List.mem_cons_of_mem _ ih

end Frame

namespace Workspace

/-- Whatever is called, the session stays shut, and refuses lines and scripts. -/
def IsOver (workspace : Workspace) : Prop :=
  ∀ later,
    let final := workspace.operateAll later
    final.session.IsShut ∧
      (∀ line, final.execute line = (.error (.refused .closed), final)) ∧
      ∀ script, final.executeScript script = (.error (.refused .closed), final)

theorem isOver_of_isShut {workspace : Workspace} (shut : workspace.session.IsShut) :
    workspace.IsOver := by
  intro later final
  have steps : Relation.ReflTransGen (Session.Change fun _ => True) workspace.session
      final.session := operateAll_changes (by simp) (by simp) workspace
  have stays : final.session.IsShut := shut.changes steps
  exact ⟨stays, fun line => runLine_of_closed _ line stays.closed,
    fun script => runScript_of_closed _ script stays.closed⟩

/-- A closed session has been emptied, whatever has been called before. -/
theorem isShut_of_closed {disk : Disk} {operations : List Operation}
    (isClosed : ((start disk).operateAll operations).session.closed = true) :
    ((start disk).operateAll operations).session.IsShut := by
  have steps : Relation.ReflTransGen (Session.Change fun _ => True) (start disk).session
      ((start disk).operateAll operations).session :=
    operateAll_changes (by simp) (by simp) (start disk)
  refine Session.isShut_of_changes steps (fun fresh => ?_) isClosed
  cases fresh

/-- Once a line exits, no further line is run: all calls around it succeed, with the journal and the
files as the line left them. From then on, as after a close from outside, the session is over. -/
theorem exit_isOver (disk : Disk) (operations : List Operation) :
    let workspace := (start disk).operateAll operations
    (∀ (call : Call) frame callers,
      Frame.InProgress (call.outermost workspace) (frame :: callers) → frame.call.IsExit →
        frame.workspace.session.closed = false →
          (∀ caller ∈ frame :: callers, caller.Succeeds) ∧
            frame.run.2.ShutSince (workspace.operate call.operation) ∧
            (workspace.operate call.operation).IsOver) ∧
      (workspace.operate .close).IsOver ∧ (workspace.session.closed = true → workspace.IsOver) := by
  intro workspace
  refine ⟨fun call frame callers inProgress isExit isOpen => ?_, ?_, fun isClosed => ?_⟩
  · have shuts := inProgress.shuts (Frame.shuts_of_isExit isExit isOpen)
    obtain ⟨left, ended, since⟩ := shuts _ inProgress.outermost_mem
    have since : frame.run.2.ShutSince (workspace.operate call.operation) := by
      rwa [operate_operation, ended]
    refine ⟨fun caller member => ?_, since, isOver_of_isShut since.shut⟩
    obtain ⟨_, succeeds, _⟩ := shuts caller member
    exact congrArg Prod.fst succeeds
  · exact isOver_of_isShut ⟨rfl, rfl, rfl⟩
  · exact isOver_of_isShut (isShut_of_closed isClosed)

/-- A file that exits before its last line. -/
def farewell : Disk :=
  ⟨[(["bye"], .file (.readable "create dfa a; exit; add x"))], [], []⟩

/-- The script is over with its first line, which succeeds. The second one writes no file. -/
theorem exit_isOver_farewell :
    ((Call.script "import bye; export y").outermost (start farewell)).Succeeds ∧
      ((start farewell).operate (.script "import bye; export y")).disk = farewell ∧
      ((start farewell).operate (.script "import bye; export y")).IsOver := by
  let script : Call := .script "import bye; export y"
  let outermost := script.outermost (start farewell)
  let importing : Frame := ⟨22, .line "import bye", (start farewell).told "import bye; export y"⟩
  let reading : Frame := ⟨22, .file "bye", importing.workspace.log (.dispatched "import bye")⟩
  let running : Frame := ⟨21, .script "create dfa a; exit; add x", reading.workspace.opened ["bye"]⟩
  let begun := running.workspace.told "create dfa a; exit; add x"
  let created : Workspace := (begun.runLine (runTo 21) "create dfa a").2
  let exiting : Frame := ⟨21, .line "exit", created⟩
  have answered : (begun.runLine (runTo 21) "create dfa a").1 = .ok (.ok .created) := by
    decide +kernel
  have ran : begun.runLine (runTo 21) "create dfa a" = (.ok (.ok .created), created) :=
    Prod.ext answered rfl
  have first : outermost.Calls importing :=
    @Frame.Calls.line _ _ _ [] ["export y"] _ _ rfl (by decide +kernel) (by decide +kernel)
      (.nil _) rfl
  have second : importing.Calls reading := .file rfl (by decide +kernel) (by decide +kernel)
  have third : reading.Calls running :=
    .script (by decide +kernel) (by decide +kernel) (by decide +kernel)
  have fourth : running.Calls exiting :=
    @Frame.Calls.line _ _ _ ["create dfa a"] ["add x"] _ _ rfl (by decide +kernel)
      (by decide +kernel) (.cons ran (.nil _)) (by decide +kernel)
  have inProgress : Frame.InProgress outermost [exiting, running, reading, importing, outermost] :=
    (((Frame.InProgress.first.next first).next second).next third).next fourth
  have unwritten : exiting.run.2.disk = farewell := by decide +kernel
  obtain ⟨succeed, since, isOver⟩ := (exit_isOver farewell []).1 script exiting _ inProgress
    (by decide +kernel) (by decide +kernel)
  exact ⟨succeed _ inProgress.outermost_mem, since.disk.trans unwritten, isOver⟩

end Workspace

end AutomataShell
