import AutomataShell.Proofs.Session.Calling

/-! Imports that run in circles. The imports in progress are those of the calls in progress, so one is
refused exactly when one of the calls around it imports from the same place. When no call is in
progress, no import is. -/

set_option autoImplicit false

namespace AutomataShell

open Script Text

/-- A runner that raises no refusal but that of a closed session. -/
def Runner.RaisesClosed (nested : Runner) : Prop :=
  ∀ script workspace why, (nested script workspace).1 = .error (.refused why) → why = .closed

namespace Workspace

variable {nested : Runner} {workspace : Workspace}

theorem eq_closed_of_runLine {line : Text} {why : Refusal}
    (raised : (workspace.runLine nested line).1 = .error (.refused why)) : why = .closed := by
  unfold runLine at raised
  split at raised
  · cases raised
    rfl
  · split at raised <;> cases raised

/-- Between lines it is seen whether the session is still open, so no line is refused for that. -/
theorem runLines_ne_refused {lines : List Text} {index : Nat} {why : Refusal} :
    (workspace.runLines nested index lines).1 ≠ .error (.refused why) := by
  induction lines generalizing index workspace with
  | nil => simp [runLines]
  | cons line rest ih =>
    unfold runLines
    split
    · simp
    · rename_i isOpen
      split
      · rename_i failure left ran
        intro raised
        cases raised
        unfold runLine at ran
        rw [if_neg isOpen] at ran
        split at ran <;> cases ran
      · simp
      · split
        · rename_i failure final ended
          intro raised
          cases raised
          exact ih (congrArg Prod.fst ended)
        · simp

theorem runTo_raisesClosed (depth : Nat) : (runTo depth).RaisesClosed := by
  intro script workspace why raised
  cases depth with
  | zero => cases raised
  | succ depth =>
    rw [runTo, runScript] at raised
    split at raised
    · cases raised
      rfl
    · split at raised
      · cases raised
      · simp only at raised
        split at raised
        · cases raised
        · exact absurd raised runLines_ne_refused

/-- An import is refused for the sake of another one that is from the same place. -/
theorem importFile_importCycle_iff (closed : nested.RaisesClosed) {path other : Text} :
    (workspace.importFile nested path).1 = .error (.refused (.importCycle other)) ↔
      path = other ∧ ∃ place ∈ workspace.session.importing,
        importPlace path workspace.disk = .ok place := by
  constructor
  · intro raised
    unfold importFile at raised
    split at raised
    · cases raised
    · rename_i place found
      split at raised
      · rename_i isCycle
        cases raised
        exact ⟨rfl, place, by simpa using isCycle, found⟩
      · -- Neither the files nor the script of the import can be to blame.
        split at raised
        · rename_i failure _
          cases failure <;> cases raised
        · unfold runImported at raised
          simp only at raised
          split at raised
          · rename_i failure left ran
            cases raised
            cases closed _ _ _ (congrArg Prod.fst ran)
          · split at raised <;> cases raised
  · rintro ⟨rfl, place, member, found⟩
    have isCycle : workspace.session.importing.contains place = true := by simpa using member
    simp only [importFile, found, isCycle, if_true]

theorem perform_importCycle_iff (closed : nested.RaisesClosed) {command : Command} {path : Text} :
    (workspace.perform nested command).1 = .error (.refused (.importCycle path)) ↔
      command = .importFile path ∧ ∃ place ∈ workspace.session.importing,
        importPlace path workspace.disk = .ok place := by
  cases command with
  | importFile named =>
    have raised : (workspace.perform nested (.importFile named)).1 =
          .error (.refused (.importCycle path)) ↔
        (workspace.importFile nested named).1 = .error (.refused (.importCycle path)) := by
      simp only [perform]
      split <;> simp_all
    rw [raised, importFile_importCycle_iff closed]
    constructor
    · rintro ⟨rfl, place, member, found⟩
      exact ⟨rfl, place, member, found⟩
    · rintro ⟨same, place, member, found⟩
      cases same
      exact ⟨rfl, place, member, found⟩
  | create | add | connect | accept | execute | displayAll | display | help | exportFile | exit =>
    exact iff_of_false (fun raised => perform_severity (by simp) raised rfl) (by simp)

theorem dispatch_importCycle_iff (closed : nested.RaisesClosed) {line path : Text} :
    (workspace.dispatch nested line).1 = .error (.refused (.importCycle path)) ↔
      (Verb.ofKeyword (keywordOf line).1 = some .importFile ∧
          Command.readPath (keywordOf line).2 = .ok path) ∧
        ∃ place ∈ workspace.session.importing, importPlace path workspace.disk = .ok place := by
  unfold dispatch
  simp only
  cases known : Verb.ofKeyword (keywordOf line).1 with
  | none => simp
  | some verb =>
    simp only
    split
    · rename_i missing
      have other : verb ≠ .importFile := by
        rintro rfl
        cases missing
      simp [other]
    · rw [Option.some.injEq, ← Command.read_eq_importFile_iff]
      cases read : Command.read verb (keywordOf line).2 with
      | error why => simp
      | ok command => simp only [perform_importCycle_iff closed, Except.ok.injEq]

theorem runLine_importCycle_iff (closed : nested.RaisesClosed) {line path : Text} :
    (workspace.runLine nested line).1 = .ok (.error (.importCycle path)) ↔
      workspace.session.closed = false ∧ (Call.line line).importedPath = some path ∧
        ∃ place ∈ workspace.session.importing, importPlace path workspace.disk = .ok place := by
  have imports : (Call.line line).importedPath = some path ↔
      Verb.ofKeyword (keywordOf (trim line)).1 = some .importFile ∧
        Command.readPath (keywordOf (trim line)).2 = .ok path := by
    unfold Call.importedPath
    simp only
    cases Command.readPath (keywordOf (trim line)).2 <;> simp [Except.toOption]
  have dispatched := @dispatch_importCycle_iff nested (workspace.log (.dispatched (trim line)))
    closed (trim line) path
  rw [imports, ← log_session workspace (.dispatched (trim line)),
    ← log_disk workspace (.dispatched (trim line)), ← dispatched]
  unfold runLine
  cases isClosed : workspace.session.closed with
  | true => simp [isClosed]
  | false =>
    simp only [isClosed, Bool.false_eq_true, if_false, log_session, true_and]
    split <;> rename_i ran <;> simp [ran]

/-- A file is imported only if nothing in its script has failed. -/
theorem failure_of_importFile {path : Text} {result : BatchResult}
    (imported : (workspace.importFile nested path).1 = .ok result) :
    result.failure = none := by
  rcases workspace.importFile_cases nested path with ⟨failure, same⟩ | ⟨_, _, _, _, _, same⟩
  · rw [same] at imported
    cases imported
  · rw [same, runImported] at imported
    split at imported
    · cases imported
    · split at imported
      · rename_i unfailed
        cases imported
        exact unfailed
      · cases imported

end Workspace

namespace Frame

open Workspace

theorem isRefused_line_iff {depth : Nat} {line : Text} {workspace : Workspace} {why : Refusal} :
    IsRefused ⟨depth, .line line, workspace⟩ why ↔
      (workspace.runLine (runTo depth) line).1 = .ok (.error why) ∨
        (workspace.runLine (runTo depth) line).1 = .error (.refused why) := by
  simp only [IsRefused, run_line, Prod.map_fst]
  generalize (workspace.runLine (runTo depth) line).1 = outcome
  match outcome with
  | .error failure => simp [Except.map]
  | .ok (.error other) => simp [Except.map, answerRefusal]
  | .ok (.ok reply) => simp [Except.map, answerRefusal]

theorem isRefused_file_iff {depth : Nat} {path : Text} {workspace : Workspace} {why : Refusal} :
    IsRefused ⟨depth, .file path, workspace⟩ why ↔
      (workspace.importFile (runTo depth) path).1 = .error (.refused why) := by
  have unfailed (result : BatchResult) :
      (workspace.importFile (runTo depth) path).1 = .ok result → result.failure = none :=
    failure_of_importFile
  simp only [IsRefused, run_file, Prod.map_fst]
  generalize (workspace.importFile (runTo depth) path).1 = outcome at unfailed ⊢
  match outcome with
  | .error failure => simp [Except.map]
  | .ok result => simp [Except.map, BatchResult.refusal, unfailed result rfl]

/-- The session of a line is open when it runs. -/
def IsReady (frame : Frame) : Prop :=
  ∀ line, frame.call = .line line → frame.workspace.session.closed = false

/-- An import is refused as a circle when one from the same place is in progress. -/
theorem isRefused_importCycle_iff {frame : Frame} {path : Text}
    (imports : frame.call.importedPath = some path) :
    frame.IsRefused (.importCycle path) ↔
      frame.IsReady ∧ ∃ place ∈ frame.workspace.session.importing,
        importPlace path frame.workspace.disk = .ok place := by
  have closed := runTo_raisesClosed frame.depth
  obtain ⟨depth, call, workspace⟩ := frame
  cases call with
  | line line =>
    have raised : (workspace.runLine (runTo depth) line).1 ≠ .error (.refused (.importCycle path)) := by
      intro raised
      cases eq_closed_of_runLine raised
    rw [isRefused_line_iff, or_iff_left raised, runLine_importCycle_iff closed]
    simp [IsReady, imports]
  | script script => cases imports
  | file named =>
    cases imports
    rw [isRefused_file_iff, importFile_importCycle_iff closed]
    simp [IsReady]

/-- The places of the files that some calls import. -/
def importedPlaces (frames : List Frame) : List Place :=
  frames.filterMap place?

theorem importing_of_passes {depth : Nat} {lines : List Text} {workspace reached : Workspace}
    (passes : Passes (runTo depth) lines workspace reached) :
    reached.session.importing = workspace.session.importing := by
  induction passes with
  | nil => rfl
  | @cons line rest workspace left final reply ran _ ih =>
    have kept := runLine_importing (runTo_endsImports depth) line workspace
    rw [ran] at kept
    exact ih.trans kept

/-- A call finds the imports in progress that its caller found, and the caller if that is one. -/
theorem Calls.importing {caller frame : Frame} (calls : caller.Calls frame) :
    frame.workspace.session.importing =
      importedPlaces [caller] ++ caller.workspace.session.importing := by
  cases calls with
  | file => rfl
  | script found => simp [importedPlaces, place?, found, Except.toOption, opened, Session.beginImport,
      Session.reset]
  | line _ _ _ passes => exact (importing_of_passes passes).trans rfl

theorem InProgress.importing {outermost frame : Frame} {callers : List Frame}
    (inProgress : InProgress outermost (frame :: callers)) :
    frame.workspace.session.importing =
      importedPlaces callers ++ outermost.workspace.session.importing := by
  generalize same : frame :: callers = frames at inProgress
  induction inProgress generalizing frame callers with
  | first =>
    cases same
    rfl
  | @next called caller behind _ calls ih =>
    cases same
    rw [calls.importing, ih rfl, ← List.append_assoc, importedPlaces, importedPlaces,
      ← List.filterMap_append, List.singleton_append, importedPlaces]

/-- A line that is called by a script finds the session open. -/
theorem InProgress.isReady {outermost frame caller : Frame} {callers : List Frame}
    (inProgress : InProgress outermost (frame :: caller :: callers)) : frame.IsReady := by
  cases inProgress with
  | next _ calls =>
    cases calls with
    | file => simp [IsReady]
    | script => simp [IsReady]
    | line _ _ _ _ stillOpen => exact fun _ _ => stillOpen

end Frame

namespace Workspace

theorem importFile_importing {nested : Runner} (ends : nested.EndsImports) (path : Text)
    (workspace : Workspace) :
    (workspace.importFile nested path).2.session.importing = workspace.session.importing := by
  rcases workspace.importFile_cases nested path with ⟨failure, same⟩ | ⟨place, script, _, _, _, same⟩
  · rw [same]
  · rw [same, runImported_snd]
    exact congrArg List.tail (ends script (workspace.opened place))

/-- No operation leaves an import in progress, however it ends. -/
theorem operate_importing (operation : Operation) (workspace : Workspace) :
    (workspace.operate operation).session.importing = workspace.session.importing := by
  cases operation with
  | line command => exact runLine_importing (runTo_endsImports _) command workspace
  | script script => exact runScript_importing (runTo_endsImports _) script workspace
  | importing path => exact importFile_importing (runTo_endsImports _) path workspace
  | exporting path => exact (exportFile_isUnaided path).importing (runTo 0)
  | reset | close | refiling => rfl

theorem operateAll_importing (operations : List Operation) (workspace : Workspace) :
    (workspace.operateAll operations).session.importing = workspace.session.importing := by
  induction operations generalizing workspace with
  | nil => rfl
  | cons operation rest ih => exact (ih _).trans (operate_importing operation workspace)

/-- A file that imports itself under another spelling. -/
def loop : Disk :=
  ⟨[(["loop"], .file (.readable "help; import ./loop"))], [], []⟩

end Workspace

end AutomataShell
