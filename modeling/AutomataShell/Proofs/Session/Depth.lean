import AutomataShell.Proofs.Script.Joining
import AutomataShell.Proofs.Session.Calling
import AutomataShell.Proofs.Session.Nesting

/-! How deep the imports of a script nest in a session that has been in use. What such a session has
recorded may import files once it is exported, so until the first import each line may add a file that
does. From then on the record holds lines of scripts alone. -/

set_option autoImplicit false

namespace AutomataShell

open Script Text

theorem Script.length_commandsOf_le (script : Text) :
    (commandsOf script).length ≤ script.length := by
  unfold commandsOf
  split
  · exact Nat.zero_le _
  · rename_i expanded succeeded
    rw [(expand_of_preprocess succeeded).2,
      splitCommands_written fun _ => isClean_of_mem_entries fun _ => isClean_logicalLines]
    calc (entries (logicalLines script)).length
        ≤ (logicalLines script).length :=
          (length_entries_le _).trans (List.length_filter_le _ _)
      _ ≤ script.length := length_logicalLines_le_length script

namespace Disk

theorem fileCount_put_le (disk : Disk) (place : Place) (entry : Entry) :
    (disk.put place entry).fileCount ≤ disk.fileCount + 1 := by
  unfold fileCount put
  simp only
  generalize disk.entries = entries
  induction entries with
  | nil =>
    rw [Entry.put, List.countP_singleton]
    split <;> simp
  | cons old rest ih =>
    unfold Entry.put
    split
    · rw [List.countP_cons, List.countP_cons]
      split <;> split <;> omega
    · rw [List.countP_cons, List.countP_cons]
      omega

theorem fileCount_le_of_writeText {disk after : Disk} {path text : Text}
    (written : disk.writeText path text = .ok after) : after.fileCount ≤ disk.fileCount + 1 := by
  obtain ⟨_, place, _, _, rfl⟩ := eq_put_of_writeText written
  exact disk.fileCount_put_le place _

theorem unimported_le (disk : Disk) (importing : List Place) :
    disk.unimported importing ≤ disk.fileCount := by
  apply List.countP_mono_left
  intro entry _ counted
  exact (Bool.and_eq_true_iff.1 counted).1

end Disk

namespace Workspace

theorem Changes.isNamed {allowed : Text → Prop} {before after : Workspace}
    (changes : Changes allowed before after) (isNamed : before.disk.IsNamed) :
    after.disk.IsNamed := by
  induction changes with
  | refl => exact isNamed
  | tail _ step ih =>
    cases step with
    | told _ sameDisk => exact sameDisk ▸ ih
    | worked _ sameDisk => exact sameDisk ▸ ih
    | wrote _ written =>
      obtain ⟨_, place, _, _, same⟩ := Disk.eq_put_of_writeText written
      rw [same]
      exact ih

section

variable {nested : Runner} {workspace : Workspace}

/-- What a step does to the files, if it writes one at the most. -/
def WritesOnce (workspace left : Workspace) : Prop :=
  left.disk = workspace.disk ∨ ∃ path text, workspace.disk.writeText path text = .ok left.disk

theorem WritesOnce.fileCount_le {left : Workspace} (writes : workspace.WritesOnce left) :
    left.disk.fileCount ≤ workspace.disk.fileCount + 1 := by
  rcases writes with same | ⟨path, text, written⟩
  · rw [same]
    exact Nat.le_succ _
  · exact Disk.fileCount_le_of_writeText written

theorem exportFile_writesOnce (path : Text) : workspace.WritesOnce (workspace.exportFile path).2 := by
  unfold exportFile
  split
  · exact .inl rfl
  · simp only
    split
    · exact .inl rfl
    · rename_i written
      exact .inr ⟨_, _, written⟩

theorem edit_disk (change : Machine → Machine.Called Refusal Reply) :
    (workspace.edit change).2.disk = workspace.disk := by
  unfold edit
  split <;> rfl

theorem create_disk (kind : Kind) (symbols : List Char) :
    (workspace.create kind symbols).2.disk = workspace.disk := by
  unfold create
  split <;> rfl

theorem perform_writesOnce {command : Command}
    (unopened : ∀ path, command = .importFile path → ¬ workspace.OpensScript path) :
    workspace.WritesOnce (workspace.perform nested command).2 := by
  cases command with
  | create kind symbols => exact .inl (create_disk kind symbols)
  | add | connect | accept | execute | displayAll | display => exact .inl (edit_disk _)
  | help | exit => exact .inl rfl
  | exportFile path =>
    have wrote : workspace.WritesOnce (workspace.exportFile path).2 := exportFile_writesOnce path
    simp only [perform]
    split <;> simp_all
  | importFile path =>
    rcases workspace.importFile_cases nested path with
      ⟨failure, same⟩ | ⟨place, script, found, idle, stored, _⟩
    · simp only [perform, same]
      exact .inl rfl
    · exact absurd ⟨place, script, found, idle, stored⟩ (unopened path rfl)

theorem dispatch_writesOnce {line : Text} (unstarted : ¬ workspace.StartsImport line) :
    workspace.WritesOnce (workspace.dispatch nested (trim line)).2 := by
  rcases workspace.dispatch_cases nested (trim line) with same | ⟨verb, command, known, read, performed⟩
  · rw [same]
    exact .inl rfl
  · rw [performed]
    apply perform_writesOnce
    rintro path rfl opens
    obtain ⟨rfl, named⟩ := Command.read_eq_importFile_iff.1 read
    exact unstarted ⟨known, path, named, opens⟩

theorem runLine_writesOnce {line : Text} (unopened : ¬ ∃ path place script,
    workspace.Opens line path place script) :
    workspace.WritesOnce (workspace.runLine nested line).2 := by
  unfold runLine
  split
  · exact .inl rfl
  · rename_i isOpen
    have unstarted : ¬ (workspace.log (.dispatched (trim line))).StartsImport line :=
      fun (starts : workspace.StartsImport line) =>
        unopened (starts.exists_opens (by simpa using isOpen))
    have wrote : WritesOnce (workspace.log (.dispatched (trim line)))
        ((workspace.log (.dispatched (trim line))).dispatch nested (trim line)).2 :=
      dispatch_writesOnce unstarted
    split <;> rename_i ran <;> rw [ran] at wrote <;> exact wrote

end

section Opened

variable {workspace : Workspace} {origin : Disk} {line path script : Text} {place : Place}

/-- The script of a file begins without a record. -/
theorem grounded_begun (workspace : Workspace) (line : Text) (place : Place) :
    (workspace.begun line place).Grounded workspace.disk where
  homes := rfl
  directory := rfl
  recordable line member := by cases member
  files place := Or.inl rfl

theorem Opens.isRecordable (opens : workspace.Opens line path place script) :
    IsRecordable (trim line) := by
  intro replayed
  rw [isReplayable, opens.isImport] at replayed
  cases replayed

theorem Grounded.concludeImport {outcome : Outcome Refusal BatchResult}
    (grounded : outcome.2.Grounded origin) (recordable : IsRecordable (trim line)) :
    (concludeImport line path outcome).2.Grounded origin := by
  obtain ⟨ended, left⟩ := outcome
  have finished : (left.update Session.endImport).Grounded origin :=
    grounded.change (.worked (.importEnded _) rfl)
  have refused (why : Refusal) :
      (((left.update Session.endImport).log (.failed (trim line) why.message)).update fun session =>
        session.note false).Grounded origin :=
    finished.change (.worked (.noted _ false) rfl)
  match ended with
  | .error (.broke _) => exact finished
  | .error (.refused why) => exact refused why
  | .ok ⟨_, some failure⟩ => exact refused _
  | .ok ⟨_, none⟩ =>
    refine ⟨finished.homes, finished.directory, fun other member => ?_, finished.files⟩
    -- Of all that the session has recorded, only the line is not of the script.
    have member : other ∈ (left.session.endImport.remember (trim line)).record := member
    unfold Session.remember at member
    split at member
    · exact finished.recordable other member
    · rcases List.mem_append.1 member with recorded | isLine
      · exact finished.recordable other recorded
      · rw [List.mem_singleton.1 isLine]
        exact recordable

/-- Once a line has imported a file, all that is recorded is of scripts. -/
theorem Opens.grounded (opens : workspace.Opens line path place script) (depth : Nat) :
    (workspace.runLine (runTo depth) line).2.Grounded workspace.disk := by
  rw [runLine_of_opens opens]
  exact ((grounded_begun workspace line place).changes
    (runTo_isRegular_recordable depth script _)).concludeImport opens.isRecordable

/-- The place that an import opens is one of the files. -/
theorem Opens.unimported_lt (opens : workspace.Opens line path place script)
    (isNamed : workspace.disk.IsNamed) :
    workspace.disk.unimported (place :: workspace.session.importing) <
      workspace.disk.fileCount := by
  obtain ⟨text, held, _⟩ := Disk.entryAt_of_readText
    (leadsDown_importPlace isNamed opens.found) opens.stored
  exact (Disk.unimported_cons_lt held opens.idle).trans_le (Disk.unimported_le _ _)

end Opened

variable {workspace : Workspace}

/-- A depth above the number of files is enough for a line. -/
theorem runLine_isSettled_of_deep (isNamed : workspace.disk.IsNamed) (line : Text)
    {depth other : Nat} (deep : workspace.disk.fileCount < depth)
    (deepToo : workspace.disk.fileCount < other) :
    IsSettled (workspace.runLine (runTo depth) line) (workspace.runLine (runTo other) line) := by
  apply runLine_isSettled
  intro path place script opens
  obtain ⟨below, rfl⟩ : ∃ below, depth = below + 1 := ⟨depth - 1, by omega⟩
  obtain ⟨belowToo, rfl⟩ : ∃ belowToo, other = belowToo + 1 := ⟨other - 1, by omega⟩
  have fewer := opens.unimported_lt isNamed
  have enough : Suffices workspace.disk below (commandsOf script)
      (workspace.begun line place).session.importing := Or.inr (fewer.trans_le (by omega))
  have enoughToo : Suffices workspace.disk belowToo (commandsOf script)
      (workspace.begun line place).session.importing := Or.inr (fewer.trans_le (by omega))
  exact runScript_isSettled_of_suffices isNamed (grounded_begun workspace line place) enough enoughToo

/-- A depth that counts the files and the lines is enough for the lines, whatever has been recorded
before them. -/
theorem runLines_isSettled_of_deep {lines : List Text} (isNamed : workspace.disk.IsNamed)
    (recordable : ∀ line ∈ lines, IsRecordable (trim line)) {depth other : Nat}
    (deep : workspace.disk.fileCount + lines.length ≤ depth)
    (deepToo : workspace.disk.fileCount + lines.length ≤ other) (index : Nat) :
    IsSettled (workspace.runLines (runTo depth) index lines)
      (workspace.runLines (runTo other) index lines) := by
  induction lines generalizing index workspace with
  | nil => exact ⟨rfl, by simp [runLines]⟩
  | cons line rest ih =>
    rw [List.length_cons] at deep deepToo
    have recordableRest : ∀ next ∈ rest, IsRecordable (trim next) :=
      fun next member => recordable next (List.mem_cons_of_mem line member)
    apply runLines_cons_isSettled (runLine_isSettled_of_deep isNamed line (by omega) (by omega))
    by_cases opened : ∃ path place script, workspace.Opens line path place script
    · obtain ⟨path, place, script, opens⟩ := opened
      -- The files that are there now bound all imports of the lines after it.
      have left := workspace.disk.unimported_le
        (workspace.runLine (runTo depth) line).2.session.importing
      exact (opens.grounded depth).runLines_isSettled isNamed recordableRest (Or.inr (by omega))
        (Or.inr (by omega))
        (fun _ grounded enough enoughToo =>
          runScript_isSettled_of_suffices isNamed grounded enough enoughToo) (index + 1)
    · have counted : (workspace.runLine (runTo depth) line).2.disk.fileCount ≤
          workspace.disk.fileCount + 1 := (runLine_writesOnce opened).fileCount_le
      have namedThere : (workspace.runLine (runTo depth) line).2.disk.IsNamed :=
        (runLine_changes (runTo_isRegular_recordable depth) (recordable line List.mem_cons_self)
          workspace).isNamed isNamed
      exact ih namedThere recordableRest (by omega) (by omega) (index + 1)

/-- More depth than a script is given changes nothing. -/
theorem executeScript_eq_of_deep (isNamed : workspace.disk.IsNamed) {script : Text} {depth : Nat}
    (deep : workspace.importDepth script.length ≤ depth) :
    workspace.executeScript script = workspace.runScript (runTo depth) script := by
  have counted := length_commandsOf_le script
  have namedThere : (workspace.told script).disk.IsNamed := isNamed
  have few : (workspace.told script).disk.fileCount + (commandsOf script).length ≤
      workspace.importDepth script.length :=
    (Nat.add_le_add_left counted _).trans (Nat.le_succ _)
  apply IsSettled.same
  apply runScript_isSettled
  exact runLines_isSettled_of_deep namedThere (fun _ => isRecordable_of_mem_commandsOf) few
    (few.trans deep) 1

theorem isNamed_executeScript (isNamed : workspace.disk.IsNamed) (script : Text) :
    (workspace.executeScript script).2.disk.IsNamed := by
  have changes : Changes IsRecordable workspace (workspace.executeScript script).2 :=
    runTo_isRegular_recordable (workspace.importDepth script.length + 1) script workspace
  exact changes.isNamed isNamed

end Workspace

end AutomataShell
