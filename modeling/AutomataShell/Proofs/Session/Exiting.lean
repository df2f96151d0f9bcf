import AutomataShell.Proofs.Session.Closing

/-! How a session comes to be closed. Whatever call closes it, an exit is among the calls in progress at
some moment, as a line of its own or of a script that is run or imported on the way. -/

set_option autoImplicit false

namespace AutomataShell

open Text

namespace Workspace

variable {nested : Runner} {workspace : Workspace}

theorem edit_closed (change : Machine → Machine.Called Refusal Reply) :
    (workspace.edit change).2.session.closed = workspace.session.closed := by
  unfold edit
  split <;> rfl

theorem create_closed (kind : Kind) (symbols : List Char) :
    (workspace.create kind symbols).2.session.closed = workspace.session.closed := by
  unfold create
  split <;> rfl

theorem exportFile_closed (path : Text) :
    (workspace.exportFile path).2.session.closed = workspace.session.closed := by
  unfold exportFile
  split
  · rfl
  · simp only
    split <;> rfl

/-- A command that closes the session is an exit, or imports a file that does. -/
theorem perform_closes {command : Command} (isOpen : workspace.session.closed = false)
    (closes : (workspace.perform nested command).2.session.closed = true) :
    command = .exit ∨ ∃ path, command = .importFile path ∧
      (workspace.importFile nested path).2.session.closed = true := by
  cases command with
  | exit => exact .inl rfl
  | importFile path =>
    refine .inr ⟨path, rfl, ?_⟩
    simp only [perform] at closes
    split at closes <;> simp_all
  | create kind symbols =>
    rw [perform, create_closed, isOpen] at closes
    cases closes
  | add | connect | accept | execute | displayAll | display =>
    simp only [perform, edit_closed, isOpen] at closes
    cases closes
  | help =>
    cases isOpen.symm.trans closes
  | exportFile path =>
    have kept : (workspace.exportFile path).2.session.closed = false :=
      (exportFile_closed path).trans isOpen
    simp only [perform] at closes
    split at closes <;> simp_all

theorem dispatch_closes {line : Text} (isOpen : workspace.session.closed = false)
    (closes : (workspace.dispatch nested line).2.session.closed = true) :
    Verb.ofKeyword (keywordOf line).1 = some .exit ∨
      ∃ path, Verb.ofKeyword (keywordOf line).1 = some .importFile ∧
        Command.readPath (keywordOf line).2 = .ok path ∧
        (workspace.importFile nested path).2.session.closed = true := by
  rcases workspace.dispatch_cases nested line with same | ⟨verb, command, known, read, performed⟩
  · rw [same] at closes
    cases isOpen.symm.trans closes
  · rw [performed] at closes
    rcases perform_closes isOpen closes with rfl | ⟨path, rfl, closing⟩
    · exact .inl (known.trans (congrArg some (Command.verb_of_read read).symm))
    · obtain ⟨rfl, named⟩ := Command.read_eq_importFile_iff.1 read
      exact .inr ⟨path, known, named, closing⟩

theorem runLine_closes {line : Text} (isOpen : workspace.session.closed = false)
    (closes : (workspace.runLine nested line).2.session.closed = true) :
    (Call.line line).IsExit ∨
      ∃ path, Verb.ofKeyword (keywordOf (trim line)).1 = some .importFile ∧
        Command.readPath (keywordOf (trim line)).2 = .ok path ∧
        ((workspace.log (.dispatched (trim line))).importFile nested path).2.session.closed =
          true := by
  have opened : (workspace.log (.dispatched (trim line))).session.closed = false := isOpen
  apply dispatch_closes opened
  unfold runLine at closes
  rw [if_neg (by simp [isOpen])] at closes
  split at closes
  · rename_i reply left ran
    rw [ran]
    -- To be recorded closes nothing.
    cases stays : left.session.closed with
    | true => rfl
    | false => simp [Session.note, Session.remember, stays] at closes
  · rename_i why left ran
    rw [ran]
    exact closes
  · rename_i why left ran
    rw [ran]
    exact closes

/-- A file that closes the session has a script that does. -/
theorem importFile_closes {path : Text} (isOpen : workspace.session.closed = false)
    (closes : (workspace.importFile nested path).2.session.closed = true) :
    ∃ place script, importPlace path workspace.disk = .ok place ∧
      place ∉ workspace.session.importing ∧ workspace.disk.readText place.shown = .ok script ∧
        (nested script (workspace.opened place)).2.session.closed = true := by
  rcases workspace.importFile_cases nested path with
    ⟨failure, same⟩ | ⟨place, script, found, idle, stored, same⟩
  · rw [same] at closes
    cases isOpen.symm.trans closes
  · rw [same, runImported_snd] at closes
    exact ⟨place, script, found, idle, stored, closes⟩

/-- The first line that closes the session. -/
theorem exists_closing_line {index : Nat} {lines : List Text}
    (isOpen : workspace.session.closed = false)
    (isClosed : (workspace.runLines nested index lines).2.session.closed = true) :
    ∃ before line after reached, lines = before ++ line :: after ∧
      Passes nested before workspace reached ∧ reached.session.closed = false ∧
        (reached.runLine nested line).2.session.closed = true := by
  induction lines generalizing index workspace with
  | nil => exact absurd (isOpen.symm.trans isClosed) Bool.false_ne_true
  | cons line rest ih =>
    unfold runLines at isClosed
    rw [if_neg (by simp [isOpen])] at isClosed
    cases closes : (workspace.runLine nested line).2.session.closed with
    | true => exact ⟨[], line, rest, workspace, rfl, .nil workspace, isOpen, closes⟩
    | false =>
      split at isClosed
      · rename_i failure left ran
        rw [ran] at closes
        exact absurd (closes.symm.trans isClosed) Bool.false_ne_true
      · rename_i why left ran
        rw [ran] at closes
        exact absurd (closes.symm.trans isClosed) Bool.false_ne_true
      · rename_i reply left ran
        rw [ran] at closes
        have closedLater : (left.runLines nested (index + 1) rest).2.session.closed = true := by
          split at isClosed <;> rename_i ended <;> rwa [ended]
        obtain ⟨before, last, after, reached, same, passes, stillOpen, closing⟩ :=
          ih closes closedLater
        exact ⟨line :: before, last, after, reached, by rw [same, List.cons_append],
          .cons ran passes, stillOpen, closing⟩

/-- A script that closes the session has a line that does. -/
theorem runScript_closes {script : Text} (isOpen : workspace.session.closed = false)
    (closes : (workspace.runScript nested script).2.session.closed = true) :
    script.all isBlank = false ∧ ∃ before line after reached,
      Script.commandsOf script = before ++ line :: after ∧
        Passes nested before (workspace.told script) reached ∧ reached.session.closed = false ∧
          (reached.runLine nested line).2.session.closed = true := by
  cases isText : script.all isBlank with
  | true =>
    rw [runScript_of_blank isOpen isText] at closes
    cases isOpen.symm.trans closes
  | false =>
    rw [runScript_of_text isOpen isText] at closes
    unfold Script.commandsOf
    split at closes
    · cases isOpen.symm.trans closes
    · exact ⟨rfl, exists_closing_line isOpen closes⟩

end Workspace

namespace Frame

open Workspace

/-- The session is open before a call, and closed after it. -/
structure Closes (frame : Frame) : Prop where
  isOpen : frame.workspace.session.closed = false
  isClosed : frame.run.2.session.closed = true

/-- A call that closes the session is an exit, or it makes a call that closes the session. -/
theorem Closes.cases {frame : Frame} (closes : frame.Closes) :
    frame.call.IsExit ∨ ∃ inner, frame.Calls inner ∧ inner.Closes := by
  obtain ⟨isOpen, isClosed⟩ := closes
  obtain ⟨depth, call, workspace⟩ := frame
  cases call with
  | line line =>
    rcases runLine_closes isOpen isClosed with isExit | ⟨path, isImport, named, closing⟩
    · exact .inl isExit
    · exact .inr ⟨_, .file isOpen isImport named, isOpen, closing⟩
  | script script =>
    have ended : (workspace.runScript (runTo depth) script).2.session.closed = true := isClosed
    obtain ⟨isText, before, line, after, reached, commands, passes, stillOpen, closing⟩ :=
      runScript_closes isOpen ended
    exact .inr ⟨_, .line isOpen isText commands passes stillOpen, stillOpen, closing⟩
  | file path =>
    obtain ⟨place, script, found, idle, stored, closing⟩ := importFile_closes isOpen isClosed
    cases depth with
    | zero => cases isOpen.symm.trans closing
    | succ depth => exact .inr ⟨_, .script found idle stored, isOpen, closing⟩

/-- How many calls can be made below one. -/
def height (frame : Frame) : Nat :=
  match frame.call with
  | .file _ => 3 * frame.depth
  | .line _ => 3 * frame.depth + 1
  | .script _ => 3 * frame.depth + 2

theorem Calls.height_lt {caller frame : Frame} (calls : caller.Calls frame) :
    frame.height < caller.height := by
  cases calls <;> simp only [height] <;> omega

theorem InProgress.within {outermost inner : Frame} {frames : List Frame}
    (calls : outermost.Calls inner) (inProgress : InProgress inner frames) :
    InProgress outermost (frames ++ [outermost]) := by
  induction inProgress with
  | first => exact InProgress.first.next calls
  | next _ further ih => exact ih.next further

/-- Whenever a call closes the session, an exit in it has done so. -/
theorem Closes.exists_exit {frame : Frame} (closes : frame.Closes) :
    ∃ exiting callers, InProgress frame (exiting :: callers) ∧ exiting.call.IsExit ∧
      exiting.workspace.session.closed = false := by
  induction height : frame.height using Nat.strong_induction_on generalizing frame with
  | h bound ih =>
    rcases closes.cases with isExit | ⟨inner, calls, closesInner⟩
    · exact ⟨frame, [], .first, isExit, closes.isOpen⟩
    · obtain ⟨exiting, callers, inProgress, isExit, isOpen⟩ :=
        ih inner.height (height ▸ calls.height_lt) closesInner rfl
      exact ⟨exiting, callers ++ [frame], inProgress.within calls, isExit, isOpen⟩

end Frame

namespace Workspace

/-- A call closes an open session just when it comes to an exit, however deep. -/
theorem closed_operate_iff {workspace : Workspace} (isOpen : workspace.session.closed = false)
    (call : Call) :
    (workspace.operate call.operation).session.closed = true ↔
      ∃ exiting callers, Frame.InProgress (call.outermost workspace) (exiting :: callers) ∧
        exiting.call.IsExit ∧ exiting.workspace.session.closed = false := by
  rw [operate_operation]
  constructor
  · intro isClosed
    exact Frame.Closes.exists_exit ⟨isOpen, isClosed⟩
  · rintro ⟨exiting, callers, inProgress, isExit, stillOpen⟩
    have shuts := inProgress.shuts (Frame.shuts_of_isExit isExit stillOpen)
    obtain ⟨left, ended, since⟩ := shuts _ inProgress.outermost_mem
    rw [ended]
    exact since.shut.closed

end Workspace

end AutomataShell
