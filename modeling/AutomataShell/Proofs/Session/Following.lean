import AutomataShell.Proofs.Disk.Resembling
import AutomataShell.Proofs.Session.Effect
import AutomataShell.Proofs.Session.Importing

/-! Two runs of the same commands in different sessions. A command that starts anew does the same in
both, and from then on so does every other command. A session that has nothing yet is followed by any
other as long as its commands succeed. -/

set_option autoImplicit false

namespace AutomataShell

open Text

/-- Whether a command discards the machine and the record before anything depends on them. -/
def Verb.startsAnew : Verb → Bool
  | .create | .importFile => true
  | .accept | .add | .connect | .execute | .exit | .exportFile | .help | .display => false

def startsAnew (line : Text) : Bool :=
  (Verb.ofKeyword (keywordOf line).1).any Verb.startsAnew

/-- A script that is blank, that has no expansion, or whose first command starts anew. -/
def StartsAfresh (script : Text) : Prop :=
  script.all isBlank = true ∨ ∀ expanded, Script.preprocess script = .ok expanded →
    ∃ line rest, Script.splitCommands expanded = line :: rest ∧ startsAnew (trim line) = true

namespace Session

/-- The sessions are open or closed alike, with the same imports in progress. -/
structure Aligned (first second : Session) : Prop where
  closed : first.closed = second.closed
  importing : first.importing = second.importing

theorem Aligned.remember {first second : Session} (aligned : first.Aligned second) {line : Text} :
    (first.remember line).Aligned (second.remember line) := by
  unfold Session.remember
  split <;> split <;> exact ⟨aligned.closed, aligned.importing⟩

/-- The sessions work on the same machine, unless the first need not be exact: then it may have no
machine and nothing to export. -/
def Matches (exact : Prop) (first second : Session) : Prop :=
  first.machine = second.machine ∧ first.record = second.record ∨
    ¬ exact ∧ first.machine = none ∧ first.exportable = []

end Session

namespace Workspace

/-- Wherever the first workspace has got by its commands, the second has got by the same ones. -/
structure Follows (exact : Prop) (first second : Workspace) : Prop where
  aligned : first.session.Aligned second.session
  fits : first.session.Matches exact second.session
  disk : first.disk.Resembles exact second.disk

variable {Reason α : Type} {exact : Prop} {nested : Runner} {first second : Workspace}

def Succeeds (good : α → Prop) (outcome : Outcome Reason α) : Prop :=
  ∃ result, outcome.1 = .ok result ∧ good result

/-- The second outcome is that of the first. If the files may differ, this is only said of a first
outcome that is a success. -/
def Agree (exact : Prop) (good : α → Prop) (first second : Outcome Reason α) : Prop :=
  exact ∨ Succeeds good first →
    first.1 = second.1 ∧ first.2.disk.Resembles exact second.2.disk ∧
      (Succeeds good first → first.2.Follows exact second.2)

def Sound (result : BatchResult) : Prop :=
  result.failure = none

def Answered : Except Refusal Reply → Prop
  | .ok _ => True
  | .error _ => False

end Workspace

open Workspace in
/-- A runner that cannot tell sessions apart that follow each other, and that has no success with a
blank script. -/
structure Runner.IsBlind (exact : Prop) (nested : Runner) : Prop where
  agrees : ∀ script {first second : Workspace}, first.Follows exact second →
    Agree exact Sound (nested script first) (nested script second)
  blank : ∀ workspace, ¬ Succeeds Sound (nested [] workspace)

namespace Workspace

variable {Reason α : Type} {exact : Prop} {nested : Runner} {first second : Workspace}

theorem agree_of_refused {good : α → Prop} {first second : Outcome Reason α}
    {failure : Failure Reason} (refused : first.1 = .error failure) (same : second.1 = first.1)
    (disk : first.2.disk.Resembles exact second.2.disk) : Agree exact good first second := by
  refine fun _ => ⟨same.symm, disk, ?_⟩
  rintro ⟨result, succeeded, _⟩
  rw [refused] at succeeded
  cases succeeded

theorem agree_of_follows {good : α → Prop} {first second : Outcome Reason α}
    (same : first.1 = second.1) (follows : first.2.Follows exact second.2) :
    Agree exact good first second :=
  fun _ => ⟨same, follows.disk, fun _ => follows⟩

theorem Agree.cases {good : α → Prop} {first second : Outcome Reason α}
    (agree : Agree exact good first second) (asked : exact ∨ Succeeds good first) :
    ∃ outcome left right, first = (outcome, left) ∧ second = (outcome, right) ∧
      left.disk.Resembles exact right.disk ∧
      ∀ result, outcome = .ok result → good result → left.Follows exact right := by
  obtain ⟨same, disk, follows⟩ := agree asked
  refine ⟨first.1, first.2, second.2, rfl, Prod.ext same.symm rfl, disk, ?_⟩
  exact fun result succeeded sound => follows ⟨result, succeeded, sound⟩

theorem edit_agrees (follows : first.Follows exact second)
    (change : Machine → Machine.Called Refusal Reply) :
    Agree exact (fun _ => True) (first.edit change) (second.edit change) := by
  rcases follows.fits with ⟨machine, record⟩ | ⟨loose, unmade, _⟩
  · unfold edit
    rw [machine]
    split
    · exact agree_of_refused rfl rfl follows.disk
    · refine agree_of_follows rfl ⟨?_, Or.inl ⟨rfl, record⟩, follows.disk⟩
      exact ⟨follows.aligned.closed, follows.aligned.importing⟩
  · -- Without a machine the first edit is no success.
    rintro (asked | ⟨result, succeeded, _⟩)
    · exact absurd asked loose
    · rw [edit, unmade] at succeeded
      cases succeeded

theorem create_agrees (aligned : first.session.Aligned second.session)
    (disk : first.disk.Resembles exact second.disk) (kind : Kind) (symbols : List Char) :
    Agree exact (fun _ => True) (first.create kind symbols) (second.create kind symbols) := by
  unfold create
  split
  · exact agree_of_refused rfl rfl disk
  · exact agree_of_follows rfl
      ⟨⟨aligned.closed, aligned.importing⟩, Or.inl ⟨rfl, rfl⟩, disk⟩

theorem sound_of_runImported {path : Text} {place : Place} {script : Text} {workspace : Workspace}
    {good : BatchResult → Prop}
    (succeeds : Succeeds good (workspace.runImported nested path place script)) :
    Succeeds Sound (nested script ((workspace.log (.importing place)).update fun session =>
      session.reset.beginImport place)) := by
  obtain ⟨answer, succeeded, _⟩ := succeeds
  unfold runImported at succeeded
  simp only at succeeded
  split at succeeded
  · cases succeeded
  · rename_i result left ran
    split at succeeded
    · rename_i sound
      exact ⟨result, by rw [ran], sound⟩
    · cases succeeded

theorem runImported_agrees (blind : nested.IsBlind exact)
    (aligned : first.session.Aligned second.session)
    (disk : first.disk.Resembles exact second.disk) (path : Text) (place : Place) (script : Text) :
    Agree exact (fun _ => True) (first.runImported nested path place script)
      (second.runImported nested path place script) := by
  intro asked
  have opened : ((first.log (.importing place)).update fun session =>
      session.reset.beginImport place).Follows exact ((second.log (.importing place)).update
        fun session => session.reset.beginImport place) :=
    ⟨⟨aligned.closed, congrArg (place :: ·) aligned.importing⟩, Or.inl ⟨rfl, rfl⟩, disk⟩
  obtain ⟨outcome, left, right, ran, ranAgain, disks, follows⟩ :=
    (blind.agrees script opened).cases (asked.imp_right sound_of_runImported)
  unfold runImported at asked ⊢
  simp only [ran, ranAgain] at asked ⊢
  cases outcome with
  | error failure => exact agree_of_refused rfl rfl disks asked
  | ok result =>
    obtain ⟨replies, fault⟩ := result
    cases fault with
    | some failure => exact agree_of_refused rfl rfl disks asked
    | none =>
      have following := follows _ rfl rfl
      refine agree_of_follows rfl ⟨⟨following.aligned.closed, ?_⟩, ?_, disks⟩ asked
      · exact congrArg List.tail following.aligned.importing
      · exact following.fits

theorem importPlace_eq {left right : Disk} (disk : left.Resembles exact right) (path : Text) :
    importPlace path left = importPlace path right := by
  rw [importPlace, importPlace, disk.homes, disk.directory]

theorem importFile_agrees (blind : nested.IsBlind exact)
    (aligned : first.session.Aligned second.session)
    (disk : first.disk.Resembles exact second.disk) (path : Text) :
    Agree exact (fun _ => True) (first.importFile nested path) (second.importFile nested path) := by
  unfold importFile
  rw [← importPlace_eq disk path, ← aligned.importing]
  split
  · exact agree_of_refused rfl rfl disk
  · rename_i place found
    split
    · exact agree_of_refused rfl rfl disk
    · rcases disk.readText place.shown with same | ⟨loose, blank⟩
      · rw [← same]
        split
        · exact agree_of_refused rfl rfl disk
        · exact runImported_agrees blind aligned disk path place _
      · -- A file that may differ is blank, and no import of a blank file succeeds.
        rw [blank]
        rintro (asked | succeeds)
        · exact absurd asked loose
        · exact absurd (sound_of_runImported succeeds) (blind.blank _)

theorem written_exportable {first second : Session} (fits : first.Matches exact second) :
    Script.written first.exportable = Script.written second.exportable ∨
      ¬ exact ∧ Script.written first.exportable = [] := by
  rcases fits with ⟨_, record⟩ | ⟨loose, _, unwritten⟩
  · rw [Session.exportable, record]
    exact Or.inl rfl
  · rw [unwritten]
    exact Or.inr ⟨loose, rfl⟩

/-- The exports write alike, though they may count different lines. -/
theorem exportFile_follows (follows : first.Follows exact second) (path : Text) :
    (∃ failure, first.exportFile path = (.error failure, first) ∧
        second.exportFile path = (.error failure, second)) ∨
      ∃ count number left right, first.exportFile path = (.ok count, left) ∧
        second.exportFile path = (.ok number, right) ∧ left.Follows exact right := by
  unfold exportFile
  rw [← follows.disk.homes]
  split
  · exact Or.inl ⟨_, rfl, rfl⟩
  · rename_i target _
    simp only
    rcases follows.disk.writeText target.shown (written_exportable follows.fits) with
      ⟨failure, failed, failedToo⟩ | ⟨left, right, wrote, wroteToo, disk⟩
    · rw [failed, failedToo]
      exact Or.inl ⟨_, rfl, rfl⟩
    · rw [wrote, wroteToo]
      exact Or.inr ⟨_, _, _, _, rfl, rfl, follows.aligned, follows.fits, disk⟩

/-- Where the command does not start anew, the sessions have to match before. -/
theorem perform_agrees (blind : nested.IsBlind exact)
    (aligned : first.session.Aligned second.session)
    (disk : first.disk.Resembles exact second.disk) {command : Command}
    (fits : command.verb.startsAnew = false → first.session.Matches exact second.session) :
    Agree exact (fun _ => True) (first.perform nested command)
      (second.perform nested command) := by
  cases command with
  | create kind symbols => exact create_agrees aligned disk kind symbols
  | add | connect | accept | execute | displayAll | display =>
    exact edit_agrees ⟨aligned, fits rfl, disk⟩ _
  | help topic => exact agree_of_follows rfl ⟨aligned, fits rfl, disk⟩
  | exit => exact agree_of_follows rfl ⟨⟨rfl, aligned.importing⟩, Or.inl ⟨rfl, rfl⟩, disk⟩
  | exportFile path =>
    simp only [perform]
    rcases exportFile_follows ⟨aligned, fits rfl, disk⟩ path with
      ⟨failure, failed, failedToo⟩ | ⟨_, _, _, _, wrote, wroteToo, follows⟩
    · rw [failed, failedToo]
      exact agree_of_refused rfl rfl disk
    · rw [wrote, wroteToo]
      exact agree_of_follows rfl follows
  | importFile path =>
    intro asked
    have imported : exact ∨ Succeeds (fun _ => True) (first.importFile nested path) := by
      refine asked.imp_right ?_
      rintro ⟨reply, succeeded, _⟩
      simp only [perform] at succeeded
      split at succeeded
      · cases succeeded
      · rename_i result left ran
        exact ⟨result, by rw [ran], trivial⟩
    obtain ⟨outcome, left, right, ran, ranAgain, disks, follows⟩ :=
      (importFile_agrees blind aligned disk path).cases imported
    simp only [perform, ran, ranAgain] at asked ⊢
    cases outcome with
    | error failure => exact agree_of_refused rfl rfl disks asked
    | ok result => exact agree_of_follows rfl (follows result rfl trivial) asked

theorem dispatch_agrees (blind : nested.IsBlind exact)
    (aligned : first.session.Aligned second.session)
    (disk : first.disk.Resembles exact second.disk) {line : Text}
    (fits : startsAnew line = false → first.session.Matches exact second.session) :
    Agree exact (fun _ => True) (first.dispatch nested line) (second.dispatch nested line) := by
  unfold dispatch
  simp only
  cases known : Verb.ofKeyword (keywordOf line).1 with
  | none => exact agree_of_refused rfl rfl disk
  | some verb =>
    rw [startsAnew, known, Option.any_some] at fits
    -- A verb that needs a machine does not make one.
    have continued : verb.needsMachine = true → verb.startsAnew = false := by
      cases verb <;> simp [Verb.needsMachine, Verb.startsAnew]
    simp only
    split
    · rename_i missing
      obtain ⟨needed, unmade⟩ : verb.needsMachine = true ∧ first.session.machine = none := by
        simpa using missing
      rcases fits (continued needed) with ⟨machine, _⟩ | ⟨loose, _⟩
      · rw [if_pos (by simp [needed, ← machine, unmade])]
        exact agree_of_refused rfl rfl disk
      · rintro (asked | ⟨reply, succeeded, _⟩)
        · exact absurd asked loose
        · cases succeeded
    · rename_i provided
      have providedToo : ¬ (verb.needsMachine && second.session.machine.isNone) = true := by
        intro missing
        obtain ⟨needed, unmade⟩ := Bool.and_eq_true_iff.1 missing
        rcases fits (continued needed) with ⟨machine, _⟩ | ⟨_, without, _⟩
        · exact provided (by rw [machine, missing])
        · exact provided (by simp [needed, without])
      rw [if_neg providedToo]
      cases read : Command.read verb (keywordOf line).2 with
      | error why => exact agree_of_refused rfl rfl disk
      | ok command =>
        rw [← Command.verb_of_read read] at fits
        exact perform_agrees blind aligned disk fits

/-- Lines that a replay repeats leave a machine, so none of the others is lost on the way. -/
theorem not_isReplayable_of_no_machine {line : Text} {workspace left : Workspace} {reply : Reply}
    (done : workspace.dispatch nested line = (.ok reply, left))
    (unmade : left.session.machine = none) : isReplayable line = false := by
  by_contra replayed
  obtain ⟨effect, has⟩ := hasEffect_of_isReplayable (by simpa using replayed)
  rw [has, Effect.run] at done
  split at done
  · cases done
  · cases done
    rw [update_session, Effect.settle] at unmade
    split at unmade <;> cases unmade

theorem matches_remember {first second : Session} {line : Text} (aligned : first.Aligned second)
    (fits : first.Matches exact second)
    (unrecorded : first.machine = none → isReplayable line = false) :
    (first.remember line).Matches exact (second.remember line) := by
  rcases fits with ⟨machine, record⟩ | ⟨loose, unmade, unwritten⟩
  · left
    unfold Session.remember
    rw [aligned.closed, record]
    split
    · exact ⟨machine, record⟩
    · exact ⟨machine, rfl⟩
  · right
    cases isClosed : first.closed with
    | true =>
      rw [Session.remember_of_closed _ _ isClosed]
      exact ⟨loose, unmade, unwritten⟩
    | false =>
      refine ⟨loose, ?_, ?_⟩
      · rw [Session.remember, isClosed]
        exact unmade
      · rw [Session.exportable_remember _ _ isClosed, unwritten, unrecorded unmade]
        rfl

theorem Follows.noted (follows : first.Follows exact second) (successful : Bool) :
    (first.update fun session => session.note successful).Follows exact
      (second.update fun session => session.note successful) :=
  ⟨⟨follows.aligned.closed, follows.aligned.importing⟩, follows.fits, follows.disk⟩

theorem Follows.remembered (follows : first.Follows exact second) {line : Text}
    (unrecorded : first.session.machine = none → isReplayable line = false) :
    (first.update fun session => (session.remember line).note true).Follows exact
      (second.update fun session => (session.remember line).note true) := by
  have recorded : (first.update fun session => session.remember line).Follows exact
      (second.update fun session => session.remember line) :=
    ⟨follows.aligned.remember, matches_remember follows.aligned follows.fits unrecorded, follows.disk⟩
  exact recorded.noted true

theorem runLine_agrees (blind : nested.IsBlind exact)
    (aligned : first.session.Aligned second.session)
    (disk : first.disk.Resembles exact second.disk) {line : Text}
    (fits : startsAnew (trim line) = false → first.session.Matches exact second.session) :
    Agree exact Answered (first.runLine nested line) (second.runLine nested line) := by
  unfold runLine
  rw [← aligned.closed]
  split
  · exact agree_of_refused rfl rfl disk
  · intro asked
    have dispatched : exact ∨ Succeeds (fun _ => True)
        ((first.log (.dispatched (trim line))).dispatch nested (trim line)) := by
      refine asked.imp_right fun ⟨answer, succeeded, answered⟩ => ?_
      split at succeeded
      · rename_i reply left done
        exact ⟨reply, by rw [done], trivial⟩
      · cases succeeded
        cases answered
      · cases succeeded
    have agree : Agree exact (fun _ => True)
        ((first.log (.dispatched (trim line))).dispatch nested (trim line))
        ((second.log (.dispatched (trim line))).dispatch nested (trim line)) := by
      apply dispatch_agrees blind
      · exact aligned
      · exact disk
      · exact fits
    obtain ⟨outcome, left, right, done, doneToo, disks, follows⟩ := agree.cases dispatched
    rw [done] at asked ⊢
    rw [doneToo]
    cases outcome with
    | error failure =>
      cases failure with
      | refused why =>
        refine ⟨rfl, disks, ?_⟩
        rintro ⟨answer, succeeded, answered⟩
        cases succeeded
        cases answered
      | broke why => exact agree_of_refused rfl rfl disks asked
    | ok reply =>
      have following := follows reply rfl trivial
      exact agree_of_follows rfl
        (following.remembered (not_isReplayable_of_no_machine done)) asked

/-- Two runs of lines go the same way if that holds of the first line and of the lines after it. -/
theorem runLines_cons_agrees (aligned : first.session.Aligned second.session)
    (isOpen : first.session.closed = false) (index : Nat) {line : Text} {rest : List Text}
    (ranLine : Agree exact Answered (first.runLine nested line) (second.runLine nested line))
    (ranRest : ∀ {left right : Workspace}, left.Follows exact right →
      Agree exact Sound (left.runLines nested (index + 1) rest)
        (right.runLines nested (index + 1) rest)) :
    Agree exact Sound (first.runLines nested index (line :: rest))
      (second.runLines nested index (line :: rest)) := by
  intro asked
  unfold runLines at asked ⊢
  rw [← aligned.closed]
  simp only [isOpen, Bool.false_eq_true, if_false] at asked ⊢
  have answered : exact ∨ Succeeds Answered (first.runLine nested line) := by
    refine asked.imp_right ?_
    rintro ⟨result, succeeded, sound⟩
    split at succeeded
    · cases succeeded
    · cases succeeded
      cases sound
    · rename_i reply left ran
      exact ⟨.ok reply, by rw [ran], trivial⟩
  obtain ⟨outcome, left, right, ran, ranToo, disks, follows⟩ := ranLine.cases answered
  rw [ran] at asked ⊢
  rw [ranToo]
  rcases outcome with failure | why | reply
  · exact agree_of_refused rfl rfl disks asked
  · refine ⟨rfl, disks, ?_⟩
    rintro ⟨result, succeeded, sound⟩
    cases succeeded
    cases sound
  · simp only at asked ⊢
    have soundRest : exact ∨ Succeeds Sound (left.runLines nested (index + 1) rest) := by
      refine asked.imp_right ?_
      rintro ⟨result, succeeded, sound⟩
      split at succeeded
      · cases succeeded
      · rename_i result final ran
        cases succeeded
        exact ⟨result, by rw [ran], sound⟩
    obtain ⟨final, last, other, ended, endedToo, finalDisks, finalFollows⟩ :=
      (ranRest (follows _ rfl trivial)).cases soundRest
    rw [ended] at asked ⊢
    rw [endedToo]
    cases final with
    | error failure => exact agree_of_refused rfl rfl finalDisks asked
    | ok result =>
      refine ⟨rfl, finalDisks, ?_⟩
      rintro ⟨whole, succeeded, sound⟩
      cases succeeded
      exact finalFollows result rfl sound

theorem runLines_agrees (blind : nested.IsBlind exact) (index : Nat) (lines : List Text)
    (follows : first.Follows exact second) :
    Agree exact Sound (first.runLines nested index lines) (second.runLines nested index lines) := by
  induction lines generalizing index first second with
  | nil => exact agree_of_follows rfl (follows.noted true)
  | cons line rest ih =>
    cases isOpen : first.session.closed with
    | true =>
      unfold runLines
      rw [← follows.aligned.closed, isOpen]
      exact agree_of_follows rfl (follows.noted true)
    | false =>
      exact runLines_cons_agrees follows.aligned isOpen index
        (runLine_agrees blind follows.aligned follows.disk fun _ => follows.fits)
        (fun next => ih (index + 1) next)

theorem runLines_agrees_of_startsAnew (blind : nested.IsBlind exact)
    (aligned : first.session.Aligned second.session)
    (disk : first.disk.Resembles exact second.disk) (isOpen : first.session.closed = false)
    (index : Nat) {line : Text} (anew : startsAnew (trim line) = true) (rest : List Text) :
    Agree exact Sound (first.runLines nested index (line :: rest))
      (second.runLines nested index (line :: rest)) :=
  runLines_cons_agrees aligned isOpen index
    (runLine_agrees blind aligned disk fun continued => by rw [anew] at continued; cases continued)
    (runLines_agrees blind (index + 1) rest)

/-- Where the script does not start afresh, the sessions have to match before. -/
theorem runScript_agrees (blind : nested.IsBlind exact)
    (aligned : first.session.Aligned second.session)
    (disk : first.disk.Resembles exact second.disk) {script : Text}
    (fits : ¬ StartsAfresh script → first.session.Matches exact second.session) :
    Agree exact Sound (first.runScript nested script) (second.runScript nested script) := by
  have refused (why : Refusal) {left right : Workspace}
      (disks : left.disk.Resembles exact right.disk) :
      Agree exact Sound (left.refuseScript why) (right.refuseScript why) := by
    refine fun _ => ⟨rfl, disks, ?_⟩
    rintro ⟨result, succeeded, sound⟩
    cases succeeded
    cases sound
  cases isOpen : first.session.closed with
  | true =>
    rw [runScript_of_closed _ _ isOpen, runScript_of_closed _ _ (aligned.closed ▸ isOpen)]
    exact agree_of_refused rfl rfl disk
  | false =>
    have openToo : second.session.closed = false := aligned.closed ▸ isOpen
    cases blank : script.all isBlank with
    | true =>
      rw [runScript_of_blank isOpen blank, runScript_of_blank openToo blank]
      exact refused _ disk
    | false =>
      rw [runScript_of_text isOpen blank, runScript_of_text openToo blank]
      cases expanded : Script.preprocess script with
      | error why => exact refused _ disk
      | ok text =>
        by_cases afresh : StartsAfresh script
        · rcases afresh with blank' | starts
          · rw [blank] at blank'
            cases blank'
          · obtain ⟨line, rest, same, anew⟩ := starts text expanded
            simp only [same]
            apply runLines_agrees_of_startsAnew blind _ _ _ 1 anew rest
            · exact aligned
            · exact disk
            · exact isOpen
        · have told : (first.told script).Follows exact (second.told script) :=
            ⟨aligned, fits afresh, disk⟩
          exact runLines_agrees blind 1 _ told

theorem runTo_isBlind (exact : Prop) (depth : Nat) : (runTo depth).IsBlind exact := by
  induction depth with
  | zero =>
    refine ⟨fun script first second follows => agree_of_refused rfl rfl follows.disk, ?_⟩
    rintro workspace ⟨result, succeeded, _⟩
    cases succeeded
  | succ depth ih =>
    refine ⟨fun script first second follows =>
      runScript_agrees ih follows.aligned follows.disk fun _ => follows.fits, ?_⟩
    rintro workspace ⟨result, succeeded, sound⟩
    cases isOpen : workspace.session.closed with
    | true =>
      rw [runTo, runScript_of_closed _ _ isOpen] at succeeded
      cases succeeded
    | false =>
      rw [runTo, runScript_of_blank isOpen rfl] at succeeded
      cases succeeded
      cases sound

/-- A script is run alike in two sessions, if it starts afresh or they match. -/
theorem executeScript_agrees (aligned : first.session.Aligned second.session)
    (disk : first.disk.Resembles exact second.disk) {script : Text}
    (fits : ¬ StartsAfresh script → first.session.Matches exact second.session) :
    Agree exact Sound (first.executeScript script) (second.executeScript script) := by
  rw [executeScript, executeScript, importDepth, importDepth, ← disk.fileCount]
  exact runScript_agrees (runTo_isBlind exact _) aligned disk fits

end Workspace

end AutomataShell
