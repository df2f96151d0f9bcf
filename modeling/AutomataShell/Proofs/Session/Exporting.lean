import AutomataShell.Proofs.Session.Calling

/-! What runs do to the files. Whatever runs, and however it ends, the files change by its exports and
by nothing else, and the journal tells of each of these. -/

set_option autoImplicit false

namespace AutomataShell

open Text

/-- The path of an export. -/
def Event.exportPath : Event → Option Text
  | .exported _ path => some path
  | _ => none

/-- The paths of the exports that a journal tells of. -/
def exportPaths (journal : List Event) : List Text :=
  journal.filterMap Event.exportPath

theorem exportPath_definitionEvent (definition : Script.Definition) :
    (definitionEvent definition).exportPath = none := by
  cases definition <;> rfl

theorem Path.rootOf_eq_nil_iff (text : Text) : rootOf text = [] ↔ text.head? ≠ some '/' := by
  have empty : text.takeWhile (· = '/') = [] ↔ text.head? ≠ some '/' := by
    cases text with
    | nil => simp
    | cons c rest => by_cases slash : c = '/' <;> simp [slash]
  rw [← empty]
  unfold rootOf
  split <;> simp_all

namespace Disk

/-- The place that a path names, whether or not it can be opened. -/
def named (disk : Disk) (path : Text) : Place :=
  (Path.ofText path).resolve disk.directory

theorem eq_named_of_find {disk : Disk} {path : Text} {place : Place}
    (found : disk.find path = .ok place) : place = disk.named path := by
  unfold find at found
  split at found
  · cases found
  · split at found
    · cases found
    · rw [follow_eq_foldl found, named, Path.resolve, Path.ofText]
      simp only [Path.rootOf_eq_nil_iff, ne_eq, ite_not]

/-- What the exports in a journal have made of the files. Where none has written, all is as before, and
the others have left lines that rebuild a machine. -/
structure ExportedBy (journal : List Event) (before after : Disk) : Prop where
  directory : after.directory = before.directory
  untouched : ∀ place, (∀ path ∈ exportPaths journal, before.named path ≠ place) →
    after.entryAt place = before.entryAt place
  written : ∀ path ∈ exportPaths journal, ∃ lines, (∀ line ∈ lines, isReplayable line = true) ∧
    after.entryAt (before.named path) = some (.file (.readable (Script.written lines)))

variable {first second third : Disk}

theorem exportedBy_refl {journal : List Event} (silent : exportPaths journal = []) (disk : Disk) :
    ExportedBy journal disk disk where
  directory := rfl
  untouched _ _ := rfl
  written path member := by
    rw [silent] at member
    cases member

theorem ExportedBy.named_eq {journal : List Event} (exported : ExportedBy journal first second)
    (path : Text) : second.named path = first.named path := by
  rw [named, named, exported.directory]

/-- Of two exports to one place it is the later one that counts. -/
theorem ExportedBy.append {earlier later : List Event} (before : ExportedBy earlier first second)
    (after : ExportedBy later second third) : ExportedBy (later ++ earlier) first third where
  directory := after.directory.trans before.directory
  untouched place apart := by
    simp only [exportPaths, List.filterMap_append, List.mem_append] at apart
    rw [after.untouched place fun path member => before.named_eq path ▸ apart path (.inl member),
      before.untouched place fun path member => apart path (.inr member)]
  written path member := by
    by_cases again : ∃ other ∈ exportPaths later, second.named other = first.named path
    · obtain ⟨other, inLater, same⟩ := again
      rw [← same]
      exact after.written other inLater
    · have apart (other : Text) (inLater : other ∈ exportPaths later) :
          second.named other ≠ first.named path := fun same => again ⟨other, inLater, same⟩
      rw [after.untouched _ apart]
      apply before.written
      rw [exportPaths, List.filterMap_append, List.mem_append] at member
      refine member.resolve_left fun inLater => apart path inLater (before.named_eq path)

theorem exportedBy_of_writeText {lines : List Text} {count : Nat} {path : Text}
    (replayed : ∀ line ∈ lines, isReplayable line = true)
    (written : first.writeText path (Script.written lines) = .ok second) :
    ExportedBy [.exported count path] first second := by
  obtain ⟨_, place, found, other, rfl⟩ := eq_put_of_writeText written
  have below : place ≠ [] := fun top => other (by rw [top]; rfl)
  obtain rfl := eq_named_of_find found
  refine ⟨rfl, fun there apart => ?_, fun there member => ?_⟩
  · rw [entryAt_put _ _ _ _ below, if_neg (Ne.symm (apart path List.mem_cons_self))]
  · cases List.mem_singleton.1 member
    exact ⟨lines, replayed, by rw [entryAt_put _ _ _ _ below, if_pos rfl]⟩

/-- Every file has the content that it had before, and there is no other one. -/
def IsKept (before after : Disk) : Prop :=
  ∀ place, after.entryAt place = before.entryAt place

/-- The files that the exports in a journal have written to held the same lines before. -/
def ExportsNothingNew (journal : List Event) (before after : Disk) : Prop :=
  ∀ path ∈ exportPaths journal, ∃ lines, (∀ line ∈ lines, isReplayable line = true) ∧
    before.entryAt (before.named path) = some (.file (.readable (Script.written lines))) ∧
    after.entryAt (before.named path) = some (.file (.readable (Script.written lines)))

theorem ExportedBy.isKept_iff {journal : List Event} (exported : ExportedBy journal first second) :
    first.IsKept second ↔ ExportsNothingNew journal first second := by
  constructor
  · intro kept path member
    obtain ⟨lines, replayed, holds⟩ := exported.written path member
    exact ⟨lines, replayed, (kept _).symm.trans holds, holds⟩
  · intro nothingNew place
    by_cases reached : ∃ path ∈ exportPaths journal, first.named path = place
    · obtain ⟨path, member, rfl⟩ := reached
      obtain ⟨lines, _, held, holds⟩ := nothingNew path member
      exact holds.trans held.symm
    · exact exported.untouched place fun path member same => reached ⟨path, member, same⟩

end Disk

namespace Workspace

/-- The journal has grown, and the files have changed by the exports that it tells of since. -/
def Tells (before after : Workspace) : Prop :=
  ∃ journal, after.journal = journal ++ before.journal ∧
    Disk.ExportedBy journal before.disk after.disk

theorem Tells.trans {first second third : Workspace} (before : first.Tells second)
    (after : second.Tells third) : first.Tells third := by
  obtain ⟨earlier, sameEarlier, exportedEarlier⟩ := before
  obtain ⟨later, sameLater, exportedLater⟩ := after
  refine ⟨later ++ earlier, ?_, exportedEarlier.append exportedLater⟩
  rw [sameLater, sameEarlier, List.append_assoc]

/-- Events that are not exports come with no change of the files. -/
theorem tells_of_silent {before after : Workspace} (journal : List Event)
    (silent : exportPaths journal = []) (grown : after.journal = journal ++ before.journal)
    (sameDisk : after.disk = before.disk) : before.Tells after :=
  ⟨journal, grown, sameDisk ▸ Disk.exportedBy_refl silent _⟩

theorem tells_update (workspace : Workspace) (change : Session → Session) :
    workspace.Tells (workspace.update change) :=
  tells_of_silent [] rfl rfl rfl

theorem tells_refl (workspace : Workspace) : workspace.Tells workspace :=
  tells_of_silent [] rfl rfl rfl

theorem tells_log (workspace : Workspace) {event : Event} (silent : event.exportPath = none) :
    workspace.Tells (workspace.log event) :=
  tells_of_silent [event] (by simp [exportPaths, silent]) rfl rfl

theorem tells_told (workspace : Workspace) (script : Text) : workspace.Tells (workspace.told script) := by
  refine tells_of_silent _ ?_ rfl rfl
  rw [exportPaths, List.filterMap_eq_nil_iff]
  intro event member
  rw [List.mem_reverse, List.mem_map] at member
  obtain ⟨definition, _, rfl⟩ := member
  exact exportPath_definitionEvent definition

theorem exportFile_tells (path : Text) (workspace : Workspace) :
    workspace.Tells (workspace.exportFile path).2 := by
  unfold exportFile
  split
  · exact workspace.tells_refl
  · rename_i target _
    simp only
    split
    · exact workspace.tells_refl
    · rename_i disk written
      have replayed (line : Text) (member : line ∈ workspace.session.exportable) :
          isReplayable line = true := (List.mem_filter.1 member).2
      exact ⟨_, rfl, Disk.exportedBy_of_writeText replayed written⟩

theorem edit_tells (change : Machine → Machine.Called Refusal Reply) (workspace : Workspace) :
    workspace.Tells (workspace.edit change).2 := by
  unfold edit
  split
  · exact workspace.tells_refl
  · exact workspace.tells_update _

theorem create_tells (kind : Kind) (symbols : List Char) (workspace : Workspace) :
    workspace.Tells (workspace.create kind symbols).2 := by
  unfold create
  split
  · exact workspace.tells_refl
  · exact workspace.tells_update _

end Workspace

/-- A runner whose journal tells of all that it does to the files. -/
def Runner.Tells (nested : Runner) : Prop :=
  ∀ script (workspace : Workspace), workspace.Tells (nested script workspace).2

namespace Workspace

variable {nested : Runner}

theorem importFile_tells (tells : nested.Tells) (path : Text) (workspace : Workspace) :
    workspace.Tells (workspace.importFile nested path).2 := by
  rcases workspace.importFile_cases nested path with ⟨failure, same⟩ | ⟨place, script, _, _, _, same⟩
  · rw [same]
    exact workspace.tells_refl
  · rw [same, runImported_snd]
    have begun : workspace.Tells (workspace.opened place) :=
      (workspace.tells_log rfl).trans (tells_update _ _)
    exact (begun.trans (tells script _)).trans (tells_update _ _)

theorem perform_tells (tells : nested.Tells) (command : Command) (workspace : Workspace) :
    workspace.Tells (workspace.perform nested command).2 := by
  cases command with
  | create kind symbols => exact create_tells kind symbols workspace
  | add | connect | accept | execute | displayAll | display => exact edit_tells _ workspace
  | help => exact workspace.tells_refl
  | exit => exact workspace.tells_update _
  | exportFile path =>
    have exported := exportFile_tells path workspace
    simp only [perform]
    split <;> simp_all
  | importFile path =>
    have imported := importFile_tells tells path workspace
    simp only [perform]
    split <;> simp_all

theorem dispatch_tells (tells : nested.Tells) (line : Text) (workspace : Workspace) :
    workspace.Tells (workspace.dispatch nested line).2 := by
  rcases workspace.dispatch_cases nested line with same | ⟨_, command, _, _, performed⟩
  · rw [same]
    exact workspace.tells_refl
  · rw [performed]
    exact perform_tells tells command workspace

theorem runLine_tells (tells : nested.Tells) (line : Text) (workspace : Workspace) :
    workspace.Tells (workspace.runLine nested line).2 := by
  unfold runLine
  split
  · exact workspace.tells_refl
  · have ran := (workspace.tells_log rfl).trans
      (dispatch_tells tells (trim line) (workspace.log (.dispatched (trim line))))
    split
    · rename_i reply left same
      rw [same] at ran
      exact ran.trans (tells_update _ _)
    · rename_i why left same
      rw [same] at ran
      exact (ran.trans (tells_log _ rfl)).trans (tells_update _ _)
    · rename_i why left same
      rw [same] at ran
      exact ran

theorem runScript_tells (tells : nested.Tells) (script : Text) (workspace : Workspace) :
    workspace.Tells (workspace.runScript nested script).2 := by
  cases isOpen : workspace.session.closed with
  | true =>
    rw [runScript_of_closed _ _ isOpen]
    exact workspace.tells_refl
  | false =>
    cases blank : script.all isBlank with
    | true =>
      rw [runScript_of_blank isOpen blank]
      exact workspace.tells_update _
    | false =>
      rw [runScript_of_text isOpen blank]
      refine (workspace.tells_told script).trans ?_
      split
      · exact tells_update _ _
      · apply runLines_keeps (P := Tells (workspace.told script))
        · exact fun reached _ told => told.trans (reached.tells_update _)
        · exact fun line _ reached told => told.trans (runLine_tells tells line reached)
        · exact tells_refl _

theorem runTo_tells (depth : Nat) : (runTo depth).Tells := by
  induction depth with
  | zero => exact fun _ workspace => workspace.tells_refl
  | succ depth ih => exact runScript_tells ih

/-- A check tells of its exports like any other run. -/
theorem check_tells (script : Text) (workspace : Workspace) :
    workspace.Tells (workspace.check script).2 := by
  have ran : Tells { workspace with session := .fresh }
      (executeScript script { workspace with session := .fresh }).2 :=
    runScript_tells (runTo_tells _) script _
  exact ran

end Workspace

end AutomataShell
