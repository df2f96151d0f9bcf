import AutomataShell.Proofs.Session.Importing
import AutomataShell.Proofs.Session.Recording

/-! The files while a run is under way. Each is as it was before the run, or the run has written it,
and then it holds lines that rebuild a machine. No such text has a command that imports, even where
its lines make up comments. -/

set_option autoImplicit false

namespace AutomataShell

open Script Text

theorem Workspace.leadsDown_importPlace {disk : Disk} (isNamed : disk.IsNamed) {path : Text}
    {place : Place} (found : importPlace path disk = .ok place) :
    ∀ name ∈ place, LeadsDown name := by
  unfold importPlace at found
  split at found
  · cases found
  · rename_i source expanded
    split at found
    · cases found
    · cases found
      have normal := (Path.isNormal_ofText path).expandHome isNamed.1 expanded
      apply Path.leadsDown_foldl normal.parts
      split
      · exact fun name member => (isNamed.2 name member).leadsDown
      · exact fun name member => by cases member

/-- Lines none of which imports a file. -/
def ImportsNothing (lines : List Text) : Prop :=
  ∀ line ∈ lines, Verb.ofKeyword (keywordOf (trim line)).1 ≠ some .importFile

/-- A line as the commands of scripts are, if a replay repeats it. -/
def IsRecordable (line : Text) : Prop :=
  isReplayable line = true → IsSpaced line

theorem isRecordable_of_mem_commandsOf {script line : Text} (member : line ∈ commandsOf script) :
    IsRecordable (trim line) := by
  unfold commandsOf preprocess at member
  cases expanded : expand script with
  | error why => simp [expanded, Except.map] at member
  | ok commands =>
    rw [expanded] at member
    exact isSpaced_of_expand expanded member

theorem commandsOf_written {lines : List Text} (storable : ∀ line ∈ lines, IsStorable line) :
    commandsOf (written lines) = survivors lines := by
  obtain ⟨state, expanded, commands⟩ := expansion_written storable
  simp only [commandsOf, preprocess, expand, expanded, Except.map, commands,
    splitCommands_survivors]

/-- Recorded lines that are written to a file import nothing when they are read back. -/
theorem importsNothing_exportable {session : Session}
    (recordable : ∀ line ∈ session.record, IsRecordable line) :
    ImportsNothing (commandsOf (unifyBreaks (written session.exportable))) := by
  have spaced : ∀ line ∈ session.exportable, IsSpaced line := by
    intro line member
    obtain ⟨inRecord, replayed⟩ := List.mem_filter.1 member
    exact recordable line inRecord replayed
  have storable : ∀ line ∈ session.exportable, IsStorable line := fun line member =>
    (spaced line member).isStorable (List.mem_filter.1 member).2
  rw [unifyBreaks_eq_self (return_notMem_written fun line member => (spaced line member).clean),
    commandsOf_written storable]
  intro line member
  -- What survives of a stored line still begins with a verb that a replay repeats.
  obtain ⟨verb, known, replayed⟩ := (isStorable_of_mem_survivors storable member).keywordOf_eq
  rw [trim_of_mem_survivors member, known]
  rintro same
  cases same
  cases replayed

namespace Workspace

/-- The workspace of a run that began with some files. -/
structure Grounded (origin : Disk) (workspace : Workspace) : Prop where
  homes : workspace.disk.homes = origin.homes
  directory : workspace.disk.directory = origin.directory
  recordable : ∀ line ∈ workspace.session.record, IsRecordable line
  files : ∀ place, workspace.disk.entryAt place = origin.entryAt place ∨
    ∃ text, workspace.disk.entryAt place = some (.file (.readable text)) ∧
      ImportsNothing (commandsOf (unifyBreaks text))

variable {origin : Disk} {workspace left : Workspace}

theorem grounded_start (disk : Disk) : (start disk).Grounded disk where
  homes := rfl
  directory := rfl
  recordable line member := by cases member
  files place := Or.inl rfl

theorem Grounded.change (grounded : workspace.Grounded origin)
    (step : Workspace.Change IsRecordable workspace left) : left.Grounded origin := by
  obtain ⟨home, directory, recordable, files⟩ := grounded
  cases step with
  | told sameSession sameDisk =>
    rw [← sameSession] at recordable
    rw [← sameDisk] at home directory files
    exact ⟨home, directory, recordable, files⟩
  | worked step sameDisk =>
    rw [← sameDisk] at home directory files
    exact ⟨home, directory, step.record recordable, files⟩
  | wrote sameSession wrote =>
    obtain ⟨_, place, _, other, same⟩ := Disk.eq_put_of_writeText wrote
    have below : place ≠ [] := fun top => other (by rw [top]; rfl)
    have harmless := importsNothing_exportable recordable
    rw [← sameSession] at recordable
    refine ⟨?_, ?_, recordable, fun somewhere => ?_⟩
    · rw [same, ← home]
      rfl
    · rw [same, ← directory]
      rfl
    · rw [same, Disk.entryAt_put _ _ _ _ below]
      split
      · exact Or.inr ⟨_, rfl, harmless⟩
      · exact files somewhere

theorem Grounded.changes (grounded : workspace.Grounded origin)
    (steps : Workspace.Changes IsRecordable workspace left) : left.Grounded origin := by
  induction steps with
  | refl => exact grounded
  | tail _ step ih => exact ih.change step

theorem runTo_isRegular_recordable (depth : Nat) : (runTo depth).IsRegular IsRecordable :=
  runTo_isRegular (fun _ _ expanded _ member => isSpaced_of_expand expanded member) depth

theorem Grounded.runLine (grounded : workspace.Grounded origin) {line : Text}
    (recordable : IsRecordable (trim line)) (depth : Nat) :
    (workspace.runLine (runTo depth) line).2.Grounded origin :=
  grounded.changes (runLine_changes (runTo_isRegular_recordable depth) recordable workspace)

theorem Grounded.begun (grounded : workspace.Grounded origin) (line : Text) (place : Place) :
    (workspace.begun line place).Grounded origin where
  homes := grounded.homes
  directory := grounded.directory
  recordable line member := by cases member
  files := grounded.files

theorem Grounded.told (grounded : workspace.Grounded origin) (script : Text) :
    (workspace.told script).Grounded origin :=
  ⟨grounded.homes, grounded.directory, grounded.recordable, grounded.files⟩

/-- A script that a line imports is of a file that was there before the run, or it imports nothing. -/
theorem Grounded.opens (grounded : workspace.Grounded origin) (isNamed : origin.IsNamed)
    {line path : Text} {place : Place} {script : Text}
    (opens : workspace.Opens line path place script) :
    (∃ content, origin.entryAt place = some (.file content)) ∨
      ImportsNothing (commandsOf script) := by
  have isNamedHere : workspace.disk.IsNamed := by
    rw [Disk.IsNamed, grounded.homes, grounded.directory]
    exact isNamed
  obtain ⟨text, held, rfl⟩ := Disk.entryAt_of_readText
    (leadsDown_importPlace isNamedHere opens.found) opens.stored
  rcases grounded.files place with same | ⟨written, heldToo, harmless⟩
  · rw [held] at same
    exact Or.inl ⟨_, same.symm⟩
  · rw [held] at heldToo
    cases heldToo
    exact Or.inr harmless

end Workspace

end AutomataShell
