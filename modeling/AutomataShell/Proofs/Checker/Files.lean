import AutomataShell.Checker
import AutomataShell.Proofs.CommandLine.Checking
import AutomataShell.Proofs.Session.Exporting

/-! What checks do to the files. A check runs its script for real, exports included, whoever asks for
it: each of them overwrites its file. No check changes the files in another way. -/

set_option autoImplicit false

namespace AutomataShell

open Text

/-- Whether the check of a source lets the next one follow: its failure is told on the error channel,
which takes any text, its success where the encoding decides. -/
def letsFollow (encoding : Encoding) (name : Text) :
    Except (Failure Refusal) BatchResult → Bool
  | .error _ => false
  | .ok result => result.failure.isSome || encoding.carries (name ++ ": OK" ++ "\n")

/-- Checks of sources, one after the other, until one breaks down or its success cannot be printed:
what they tell, and the files that they leave. -/
def checkAll (encoding : Encoding) : List Source → Disk → List Event × Disk
  | [], disk => ([], disk)
  | source :: rest, disk =>
    let (outcome, left) := (Workspace.start disk).check source.script
    if letsFollow encoding source.name outcome then
      let (journal, final) := checkAll encoding rest left.disk
      (journal ++ left.journal, final)
    else
      (left.journal, left.disk)

theorem exportedBy_check (script : Text) (disk : Disk) :
    Disk.ExportedBy ((Workspace.start disk).check script).2.journal disk
      ((Workspace.start disk).check script).2.disk := by
  obtain ⟨journal, same, exported⟩ := (Workspace.start disk).check_tells script
  have same : ((Workspace.start disk).check script).2.journal = journal :=
    same.trans (List.append_nil journal)
  rwa [same]

theorem exportedBy_checkAll (encoding : Encoding) (sources : List Source) (disk : Disk) :
    Disk.ExportedBy (checkAll encoding sources disk).1 disk (checkAll encoding sources disk).2 := by
  induction sources generalizing disk with
  | nil => exact Disk.exportedBy_refl rfl disk
  | cons source rest ih =>
    have first := exportedBy_check source.script disk
    unfold checkAll
    simp only
    split
    · exact first.append (ih _)
    · exact first

/-- The thread of a check leaves the files as the check does. -/
theorem Checker.exportedBy_examineBy (checker : Checker) {worker : Worker}
    (due : worker.stage = .checking) (disk : Disk) :
    Disk.ExportedBy
      (if worker.text.all isBlank then []
        else ((Workspace.start disk).check worker.text).2.journal)
      disk (checker.examineBy worker disk).2 := by
  have exported := exportedBy_check worker.text disk
  unfold examineBy examination
  rw [due]
  cases worker.text.all isBlank with
  | true => exact Disk.exportedBy_refl rfl disk
  | false =>
    simp only [Bool.false_eq_true, if_false]
    generalize (Workspace.start disk).check worker.text = outcome at exported ⊢
    obtain ⟨result, left⟩ := outcome
    cases result <;> exact exported

namespace Console

variable {disk : Disk}

/-- The source of a check finds the session as new as the one before. -/
theorem perform_check {console : Console} (waits : console.workspace = .start disk) (script : Text) :
    (console.perform (Workspace.check script)).1 = ((Workspace.start disk).check script).1 ∧
      (console.perform (Workspace.check script)).2.workspace =
        .start ((Workspace.start disk).check script).2.disk := by
  have printed := console.perform_prints (Workspace.check script)
  refine ⟨by rw [← waits]; rfl, ?_⟩
  rw [printed.workspace, waits]
  rfl

theorem fail_workspace (failure : Failure Text) (console : Console) :
    (console.fail failure).2.workspace = console.workspace := by
  cases failure <;> rfl

theorem checkSources_disk (encoding : Encoding) (sources : List Source) (sound : Bool)
    {console : Console} (same : console.encoding = encoding)
    (waits : console.workspace = .start disk) :
    (checkSources sources sound console).2.workspace.disk = (checkAll encoding sources disk).2 := by
  induction sources generalizing sound console disk with
  | nil => exact congrArg Workspace.disk waits
  | cons source rest ih =>
    obtain ⟨answered, waitsNext⟩ := perform_check waits source.script
    have sameNext := (console.perform_prints (Workspace.check source.script)).encoding.trans same
    unfold checkSources
    rw [checkAll]
    generalize console.perform (Workspace.check source.script) = performed
      at answered waitsNext sameNext ⊢
    generalize (Workspace.start disk).check source.script = checked at answered waitsNext ⊢
    obtain ⟨outcome, left⟩ := performed
    obtain ⟨result, after⟩ := checked
    simp only at answered waitsNext sameNext
    subst answered
    rcases outcome with failure | ⟨replies, _ | failure⟩
    · rw [fail_workspace, waitsNext]
      rfl
    · simp only [letsFollow, Option.isSome_none, Bool.false_or]
      subst sameNext
      cases carried : left.encoding.carries (source.name ++ ": OK" ++ "\n") with
      | false =>
        rw [left.print_of_not_carried carried]
        simp only [Shown.andThen, id, waitsNext]
        rfl
      | true =>
        obtain ⟨told, prints, printed⟩ := left.print_of_carried carried
        rw [printed]
        exact ih sound prints.encoding (prints.workspace.trans waitsNext)
    · exact ih false sameNext waitsNext

/-- The sources that a run reads, if it can read them all. -/
def readSources (console : Console) : List Source :=
  match console.sources with
  | .error _ => []
  | .ok sources => sources

/-- A check never comes to write a record or a drawing. -/
theorem begin_of_check (disk : Disk) (encoding : Encoding) {options : Options} (checks : options.check = true)
    (interrupted : Bool) (typed : List Text) :
    ((start options encoding disk).begin.feedAll interrupted typed).2.workspace.disk =
      (checkAll encoding (start options encoding disk).readSources disk).2 := by
  have check : (start options encoding disk).options.check = true := checks
  unfold begin readSources
  cases (start options encoding disk).sources with
  | error failure =>
    simp only [feedAll_ended]
    exact congrArg Workspace.disk (fail_workspace _ _)
  | ok sources =>
    rw [check]
    rcases sources with _ | ⟨source, rest⟩
    · simp only [feedAll_ended]
      rfl
    · simp only [feedAll_ended]
      exact checkSources_disk encoding (source :: rest) true rfl rfl

end Console

/-- A check leaves all files as they were just when each of its exports, if it makes any, finds the
lines that it writes in its file already. So it is with the check of a script, with the checks that a
command line asks for, and with those of texts that are submitted while they are edited. -/
theorem checks_keep_files_iff (disk : Disk) :
    (∀ script,
      let left := ((Workspace.start disk).check script).2
      disk.IsKept left.disk ↔ disk.ExportsNothingNew left.journal left.disk) ∧
    (∀ encoding arguments options typed interrupted ending final,
      Options.ofArguments arguments = .ok options → options.check = true →
        runCommandLine encoding arguments typed interrupted disk = .ok (ending, final) →
          let told := (checkAll encoding (Console.start options encoding disk).readSources disk).1
          (disk.IsKept final.workspace.disk ↔
            disk.ExportsNothingNew told final.workspace.disk)) ∧
    ∀ (checker : Checker) (worker : Worker), worker.stage = .checking →
      let left := (checker.examineBy worker disk).2
      let told := if worker.text.all isBlank then []
        else ((Workspace.start disk).check worker.text).2.journal
      disk.IsKept left ↔ disk.ExportsNothingNew told left := by
  refine ⟨fun script => (exportedBy_check script disk).isKept_iff, ?_, ?_⟩
  · intro encoding arguments options typed interrupted ending final read checks ran
    rw [runCommandLine, read] at ran
    have ended : (Console.start options encoding disk).begin.feedAll interrupted typed =
        (ending, final) := Except.ok.inj ran
    have left := Console.begin_of_check disk encoding checks interrupted typed
    rw [ended] at left
    rw [left]
    exact (exportedBy_checkAll encoding _ disk).isKept_iff
  · intro checker worker due
    exact (checker.exportedBy_examineBy due disk).isKept_iff

def notes : Disk :=
  ⟨[(["notes.txt"], .file (.readable "precious"))], [], []⟩

/-- The name of the file has only just been typed, and its text is gone. -/
theorem not_keep_files_notes :
    ¬ notes.IsKept ((Workspace.start notes).check "export notes.txt").2.disk := by
  have told : exportPaths ((Workspace.start notes).check "export notes.txt").2.journal =
      ["notes.txt"] := by decide +kernel
  intro kept
  have nothingNew := ((checks_keep_files_iff notes).1 "export notes.txt").1 kept
  obtain ⟨lines, _, held, holds⟩ := nothingNew "notes.txt" (told ▸ List.mem_cons_self)
  have lost : ((Workspace.start notes).check "export notes.txt").2.disk.entryAt
      (notes.named "notes.txt") ≠ notes.entryAt (notes.named "notes.txt") := by decide +kernel
  exact lost (holds.trans held.symm)

end AutomataShell
