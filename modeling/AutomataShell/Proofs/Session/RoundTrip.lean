import AutomataShell.Proofs.Session.Rerunning

/-! A session that is exported and imported again. The import runs what survives of the exported lines
when they are expanded as a script, so the machine comes back when those rebuild it. They do unless
two lines make up a comment or a capital sigma loses its place in a word. -/

set_option autoImplicit false

namespace AutomataShell

open Script Text

namespace Workspace

/-- An import looks where an export has written. -/
theorem importPlace_of_exportFile {workspace left : Workspace} (proper : workspace.disk.IsProper)
    {path : Text} {count : Nat} (exported : workspace.exportFile path = (.ok count, left)) :
    ∃ place, importPlace path left.disk = .ok place ∧
      left.disk.readText place.shown =
        if Disk.utf8Length place.shown ≤ Disk.pathLimit then
          .ok (unifyBreaks (written workspace.session.exportable))
        else .error (.refused ⟨.nameTooLong, place.shown⟩) := by
  unfold exportFile at exported
  split at exported
  · cases exported
  · -- Writing changes neither the homes nor the working directory, so the path means the same.
    rename_i target expanded
    simp only at exported
    split at exported
    · cases exported
    · rename_i files wrote
      cases exported
      have isNormal := (Path.isNormal_ofText path).expandHome proper.homes expanded
      obtain ⟨visible, place, _, _, same⟩ := Disk.eq_put_of_writeText wrote
      have hidden := Path.visible_of_expandHome proper.homes expanded visible
      have sameHomes : files.homes = workspace.disk.homes := by rw [same]; rfl
      have sameDirectory : files.directory = workspace.disk.directory := by rw [same]; rfl
      refine ⟨target.resolve workspace.disk.directory, ?_, ?_⟩
      · simp only [log_disk, importPlace, sameHomes, expanded, sameDirectory]
        rw [if_neg (by simpa using hidden)]
      · exact Disk.readText_of_writeText proper isNormal wrote

theorem not_all_isBlank_written {lines : List Text} (some : lines ≠ [])
    (storable : ∀ line ∈ lines, IsStorable line) : ¬ (written lines).all isBlank = true := by
  obtain ⟨line, rest, rfl⟩ := List.exists_cons_of_ne_nil some
  obtain ⟨word, tail, rfl, isVerb, _, _⟩ := storable line List.mem_cons_self
  obtain ⟨c, more, rfl⟩ := List.exists_cons_of_ne_nil isVerb.isWord.1
  have solid := isVerb.isWord.2 c List.mem_cons_self
  simp [written_cons, solid]

/-- Running stored lines as a script runs what survives of them. -/
theorem runScript_written {lines : List Text} (some : lines ≠ [])
    (storable : ∀ line ∈ lines, IsStorable line) (nested : Runner) {workspace : Workspace}
    (isOpen : workspace.session.closed = false) :
    ∃ told : Workspace, told.session = workspace.session ∧
      workspace.runScript nested (written lines) = told.runLines nested 1 (survivors lines) := by
  obtain ⟨state, expanded, commands⟩ := expansion_written storable
  refine ⟨workspace.logAll (state.definitionsInOrder.map definitionEvent), rfl, ?_⟩
  unfold runScript
  rw [if_neg (by simp [isOpen]), if_neg (not_all_isBlank_written some storable), expanded]
  simp only
  rw [commands, splitCommands_survivors]

/-- A script of stored lines succeeds when their survivors can be replayed, with the same machine. -/
theorem runTo_written {lines : List Text} (some : lines ≠ [])
    (storable : ∀ line ∈ lines, IsStorable line) (depth : Nat) {first second : Workspace}
    (firstOpen : first.session.closed = false) (secondOpen : second.session.closed = false)
    (sameMachine : second.session.machine = first.session.machine) :
    ∃ result left, runTo (depth + 1) (written lines) second = (.ok result, left) ∧
      (first.replay (survivors lines)).map (fun final => final.session.machine) =
        if result.succeeded then Option.some left.session.machine else none := by
  obtain ⟨told, sameSession, runsSurvivors⟩ :=
    runScript_written some storable (runTo depth) secondOpen
  have repeated : ∀ line ∈ survivors lines, trim line = line ∧ isReplayable line = true :=
    fun line member =>
      ⟨trim_of_mem_survivors member, (isStorable_of_mem_survivors storable member).isReplayable⟩
  rw [← sameSession] at secondOpen sameMachine
  rw [runTo, runsSurvivors]
  exact runLines_of_replay repeated 1 firstOpen secondOpen sameMachine

/-- Whether lines rebuild a machine when they are run one by one. -/
def Rebuilds (disk : Disk) (lines : List Text) (machine : Machine) : Prop :=
  ∃ final, (start disk).replay lines = some final ∧ final.session.machine = some machine

/-- Whether importing a file in a fresh session succeeds and leaves a machine. -/
def Imports (disk : Disk) (path : Text) (machine : Machine) : Prop :=
  ∃ result final, (start disk).executeFile path = (.ok result, final) ∧
    final.session.machine = some machine

/-- An import of stored lines succeeds with a machine when their survivors rebuild it. -/
theorem imports_iff_rebuilds {disk : Disk} {path : Text} {place : Place} {lines : List Text}
    (found : importPlace path disk = .ok place)
    (stored : disk.readText place.shown = .ok (written lines)) (some : lines ≠ [])
    (storable : ∀ line ∈ lines, IsStorable line) (machine : Machine) :
    Imports disk path machine ↔ Rebuilds disk (survivors lines) machine := by
  have imported : (start disk).executeFile path =
      (start disk).runImported (runTo (disk.fileCount + 1)) path place (written lines) := by
    have foundHere : importPlace path (start disk).disk = .ok place := found
    have storedHere : (start disk).disk.readText place.shown = .ok (written lines) := stored
    have idle : (start disk).session.importing.contains place = false := rfl
    simp only [executeFile, importFile, foundHere, storedHere, idle, Bool.false_eq_true, if_false]
    rfl
  -- The import empties the session first, so the script starts like the replay.
  obtain ⟨result, left, ran, sameMachine⟩ : ∃ result left,
      runTo (disk.fileCount + 1) (written lines) (((start disk).log (.importing place)).update
        fun session => session.reset.beginImport place) = (.ok result, left) ∧
      ((start disk).replay (survivors lines)).map (fun final => final.session.machine) =
        if result.succeeded then Option.some left.session.machine else none :=
    runTo_written some storable disk.fileCount rfl rfl rfl
  unfold Imports Rebuilds
  rw [imported, runImported]
  simp only [ran]
  cases ended : result.failure with
  | none =>
    have succeeded : result.succeeded = true := by simp [BatchResult.succeeded, ended]
    rw [if_pos succeeded, Option.map_eq_some_iff] at sameMachine
    obtain ⟨final, replays, same⟩ := sameMachine
    simp only
    constructor
    · intro imports
      obtain ⟨_, _, isLeft, isMachine⟩ := imports
      cases isLeft
      exact ⟨final, replays, same.trans isMachine⟩
    · intro rebuilds
      obtain ⟨other, replaysOther, isMachine⟩ := rebuilds
      rw [replays] at replaysOther
      cases replaysOther
      exact ⟨result, _, rfl, same.symm.trans isMachine⟩
  | some failure =>
    have failed : result.succeeded = false := by simp [BatchResult.succeeded, ended]
    rw [if_neg (by simp [failed]), Option.map_eq_none_iff] at sameMachine
    simp [sameMachine]

theorem not_imports_of_unreadable {disk : Disk} {path : Text} {place : Place}
    {failure : Failure FileError} (found : importPlace path disk = .ok place)
    (unreadable : disk.readText place.shown = .error failure) (machine : Machine) :
    ¬ Imports disk path machine := by
  intro imports
  obtain ⟨result, final, imported, _⟩ := imports
  have foundHere : importPlace path (start disk).disk = .ok place := found
  have unreadableHere : (start disk).disk.readText place.shown = .error failure := unreadable
  have idle : (start disk).session.importing.contains place = false := rfl
  simp only [executeFile, importFile, foundHere, unreadableHere, idle, Bool.false_eq_true,
    if_false] at imported
  cases imported

/-- Exported lines rebuild their machine when spacing their tokens anew is all that happens to
them. -/
theorem rebuilds_respaced {session : Session} (replayable : session.IsReplayable)
    {machine : Machine} (held : session.machine = some machine)
    (repeated : ∀ line ∈ session.exportable, IsSpaced line ∧ KeepsReading line) (disk : Disk) :
    Rebuilds disk (session.exportable.map respaced) machine := by
  obtain ⟨final, ran, restored⟩ := replayable.restores disk
  have all : ∀ line ∈ session.exportable,
      IsSpaced line ∧ isReplayable line = true ∧ KeepsReading line := fun line member =>
    ⟨(repeated line member).1, (List.mem_filter.1 member).2, (repeated line member).2⟩
  obtain ⟨other, ranOther, same⟩ := replay_respaced all rfl rfl rfl ran
  refine ⟨other, ranOther, ?_⟩
  rw [same, restored, Session.restored, held]

/-- A session that only scripts have worked on is exported. Importing the file succeeds with the same
machine exactly when the full path of the file can be opened and what survives of the exported lines
rebuilds the machine. It does when no lines make up a comment and capital sigmas keep their words. -/
theorem imports_exported_iff {operations : List Operation}
    (scripted : ∀ operation ∈ operations, operation.lines = [])
    {disk : Disk} (proper : disk.IsProper)
    (refiled : ∀ files, .refiling files ∈ operations → files.IsProper)
    {workspace left : Workspace} (reached : (start disk).operateAll operations = workspace)
    {machine : Machine} (held : workspace.session.machine = some machine)
    {path : Text} {count : Nat} (exported : workspace.exportFile path = (.ok count, left)) :
    ∃ place, importPlace path left.disk = .ok place ∧
      (Imports left.disk path machine ↔
        Disk.utf8Length place.shown ≤ Disk.pathLimit ∧
          Rebuilds left.disk (survivors workspace.session.exportable) machine) ∧
      (¬ HoldsComment (written workspace.session.exportable) →
        (∀ line ∈ workspace.session.exportable, KeepsReading line) →
          Rebuilds left.disk (survivors workspace.session.exportable) machine) := by
  have replayable : workspace.session.IsReplayable :=
    reached ▸ isReplayable_operateAll operations disk
  have isSpaced : ∀ line ∈ workspace.session.exportable, IsSpaced line := by
    intro line member
    rw [← reached] at member
    exact isSpaced_of_mem_exportable scripted disk member
  have storable : ∀ line ∈ workspace.session.exportable, IsStorable line := fun line member =>
    (isSpaced line member).isStorable (List.mem_filter.1 member).2
  -- With a machine there is a line that made it.
  have some : workspace.session.exportable ≠ [] := by
    intro none
    rw [replayable.machine_eq_none_iff.2 none] at held
    cases held
  have properHere : workspace.disk.IsProper := by
    rw [← reached]
    exact isProper_operateAll proper refiled
  obtain ⟨place, found, stored⟩ := importPlace_of_exportFile properHere exported
  refine ⟨place, found, ?_, ?_⟩
  · by_cases short : Disk.utf8Length place.shown ≤ Disk.pathLimit
    · have plain := return_notMem_written fun line member => (isSpaced line member).clean
      rw [if_pos short, unifyBreaks_eq_self plain] at stored
      rw [imports_iff_rebuilds found stored some storable machine]
      simp [short]
    · rw [if_neg short] at stored
      simp [short, not_imports_of_unreadable found stored machine]
  · intro uncommented keeps
    rw [survivors_of_not_holdsComment (fun line member => (isSpaced line member).clean) uncommented]
    exact rebuilds_respaced replayable held
      (fun line member => ⟨isSpaced line member, keeps line member⟩) left.disk

/-- Two scripts without a comment whose lines make up one. -/
def scriptsAcrossComment : List Operation :=
  [.script "create nfa a; add x; execute /*", .script "add y; execute */"]

def leftByScripts : Workspace :=
  (start ⟨[], [], []⟩).operateAll scriptsAcrossComment

theorem not_imports_exported_of_comment :
    ∃ left machine, leftByScripts.session.machine = some machine ∧
      leftByScripts.exportFile "saved" = (.ok 5, left) ∧ ¬ Imports left.disk "saved" machine := by
  have scripted : ∀ operation ∈ scriptsAcrossComment, operation.lines = [] := by
    simp [scriptsAcrossComment, Operation.lines]
  have refiled : ∀ files, .refiling files ∈ scriptsAcrossComment → files.IsProper := by
    simp [scriptsAcrossComment]
  have proper : Disk.IsProper ⟨[], [], []⟩ := by
    refine ⟨by simp, by simp, fun place isAbove => ?_⟩
    rw [List.prefix_nil.1 isAbove]
    rfl
  have reached : (start ⟨[], [], []⟩).operateAll scriptsAcrossComment = leftByScripts := rfl
  have held : leftByScripts.session.machine =
      some ⟨.nondeterministic, ['a'], ['x', 'y'], some 'x', [], []⟩ := by
    decide +kernel
  have counted : (leftByScripts.exportFile "saved").1 = .ok 5 := by
    decide +kernel
  have exported : leftByScripts.exportFile "saved" = (.ok 5, (leftByScripts.exportFile "saved").2) :=
    Prod.ext counted rfl
  obtain ⟨place, _, iff, _⟩ := imports_exported_iff scripted proper refiled reached held exported
  refine ⟨_, _, held, exported, fun imports => ?_⟩
  obtain ⟨final, replays, rebuilt⟩ := (iff.1 imports).2
  -- The second node was added between the marks of the comment.
  have lost : ((start (leftByScripts.exportFile "saved").2.disk).replay
      (survivors leftByScripts.session.exportable)).map (fun final => final.session.machine) =
        some (some ⟨.nondeterministic, ['a'], ['x'], some 'x', [], []⟩) := by
    decide +kernel
  rw [replays, Option.map_some, rebuilt] at lost
  revert lost
  decide

end Workspace

end AutomataShell
