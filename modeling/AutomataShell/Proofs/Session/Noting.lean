import AutomataShell.Proofs.Session.Calling

/-! The note of the last success. No run reads it. A run that answers leaves a note of its own, and one
that breaks off leaves the note of the last line that was answered in it, or else the one it found. -/

set_option autoImplicit false

namespace AutomataShell

open Script Text

theorem Session.note_remember (session : Session) (line : Text) (successful : Bool) :
    ((session.note successful).remember line).note true = (session.remember line).note true := by
  cases isClosed : session.closed <;> simp [note, remember, isClosed]

namespace Workspace

/-- The workspace with another note of the last success. -/
def noted (successful : Bool) (workspace : Workspace) : Workspace :=
  workspace.update fun session => session.note successful

variable {Reason α : Type}

/-- How an action treats the note that it finds. It leaves one of its own, which is of a success where
the action raises an error, or it raises an error and leaves the note as it was. -/
inductive Heedless (action : Workspace → Outcome Reason α) (workspace : Workspace) : Prop where
  | renewed (outcome : Outcome Reason α)
      (same : ∀ successful, action (workspace.noted successful) = outcome)
      (success : ∀ failure, outcome.1 = .error failure → outcome.2.session.successful = true)
  | left (failure : Failure Reason) (left : Workspace)
      (same : ∀ successful, action (workspace.noted successful) = (.error failure, left.noted successful))

theorem noted_eq_self {workspace : Workspace} {successful : Bool}
    (noted : workspace.session.successful = successful) :
    workspace.noted successful = workspace := by
  rw [← noted]
  rfl

namespace Heedless

variable {action : Workspace → Outcome Reason α} {workspace : Workspace}

/-- Where the last success was noted before, no error takes the note back. -/
theorem successful (heedless : Heedless action workspace)
    (noted : workspace.session.successful = true) (failure : Failure Reason)
    (raised : (action workspace).1 = .error failure) :
    (action workspace).2.session.successful = true := by
  have self : workspace.noted true = workspace := noted_eq_self noted
  cases heedless with
  | renewed outcome same success =>
    rw [← self, same] at raised ⊢
    exact success failure raised
  | left other final same =>
    rw [← self, same]
    rfl

/-- An action does the same after a success, but for an error that leaves the note of a failure. -/
theorem compared (heedless : Heedless action workspace) :
    let found := action workspace
    let after := action (workspace.noted true)
    found.1 = after.1 ∧ found.2 = after.2.noted found.2.session.successful ∧
      (found = after ↔ ¬ ((∃ failure, found.1 = .error failure) ∧
        found.2.session.successful = false)) := by
  intro found after
  have self : workspace.noted workspace.session.successful = workspace := noted_eq_self rfl
  cases heedless with
  | renewed outcome same success =>
    have sameFound : found = outcome := by
      rw [← same workspace.session.successful, self]
    have equal : found = after := sameFound.trans (same true).symm
    refine ⟨congrArg Prod.fst equal, ?_, iff_of_true equal ?_⟩
    · rw [← equal]
      exact (noted_eq_self rfl).symm
    · rintro ⟨⟨failure, raised⟩, unnoted⟩
      rw [sameFound] at raised unnoted
      exact absurd ((success failure raised).symm.trans unnoted) Bool.false_ne_true.symm
  | left failure left same =>
    have sameFound : found = (.error failure, left.noted workspace.session.successful) := by
      rw [← same workspace.session.successful, self]
    have sameAfter : after = (.error failure, left.noted true) := same true
    rw [sameFound, sameAfter]
    refine ⟨rfl, rfl, ?_⟩
    cases unnoted : workspace.session.successful with
    | true => exact iff_of_true rfl (by simp [noted, Session.note])
    | false =>
      refine iff_of_false (fun equal => ?_) (not_not.2 ⟨⟨failure, rfl⟩, rfl⟩)
      have notes : false = true :=
        congrArg (fun outcome : Outcome Reason α => outcome.2.session.successful) equal
      cases notes

end Heedless

section

variable {nested : Runner} {workspace : Workspace}

theorem create_noted (kind : Kind) (symbols : List Char) (successful : Bool) :
    (workspace.noted successful).create kind symbols =
      (workspace.create kind symbols).map id (noted successful) := by
  unfold create
  split <;> rfl

theorem edit_noted (change : Machine → Machine.Called Refusal Reply) (successful : Bool) :
    (workspace.noted successful).edit change = (workspace.edit change).map id (noted successful) := by
  have machine : (workspace.noted successful).session.machine = workspace.session.machine := rfl
  unfold edit
  rw [machine]
  split <;> rfl

theorem exportFile_noted (path : Text) (successful : Bool) :
    (workspace.noted successful).exportFile path =
      (workspace.exportFile path).map id (noted successful) := by
  have disk : (workspace.noted successful).disk = workspace.disk := rfl
  have exportable : (workspace.noted successful).session.exportable =
    workspace.session.exportable := rfl
  unfold exportFile
  rw [disk, exportable]
  split
  · rfl
  · simp only
    split <;> rfl

theorem importFile_noted {path : Text} (unopened : ¬ workspace.OpensScript path)
    (successful : Bool) :
    (workspace.noted successful).importFile nested path =
      (workspace.importFile nested path).map id (noted successful) := by
  have disk : (workspace.noted successful).disk = workspace.disk := rfl
  have importing : (workspace.noted successful).session.importing =
    workspace.session.importing := rfl
  unfold importFile
  rw [disk, importing]
  split
  · rfl
  · rename_i place found
    split
    · rfl
    · rename_i idle
      split
      · rfl
      · rename_i script stored
        exact absurd ⟨place, script, found, by simpa using idle, stored⟩ unopened

theorem perform_noted {command : Command}
    (unopened : ∀ path, command = .importFile path → ¬ workspace.OpensScript path)
    (successful : Bool) :
    (workspace.noted successful).perform nested command =
      (workspace.perform nested command).map id (noted successful) := by
  cases command with
  | create kind symbols => exact create_noted kind symbols successful
  | add | connect | accept | execute | displayAll | display =>
    simp only [perform]
    exact edit_noted _ successful
  | help | exit => rfl
  | exportFile path =>
    simp only [perform, exportFile_noted path successful]
    generalize workspace.exportFile path = outcome
    obtain ⟨_ | _, left⟩ := outcome <;> rfl
  | importFile path =>
    simp only [perform, importFile_noted (unopened path rfl) successful]
    generalize workspace.importFile nested path = outcome
    obtain ⟨_ | _, left⟩ := outcome <;> rfl

theorem dispatch_noted {line : Text} (unstarted : ¬ workspace.StartsImport line)
    (successful : Bool) :
    (workspace.noted successful).dispatch nested (trim line) =
      (workspace.dispatch nested (trim line)).map id (noted successful) := by
  have machine : (workspace.noted successful).session.machine = workspace.session.machine := rfl
  unfold dispatch
  rw [machine]
  simp only
  split
  · rfl
  · rename_i verb known
    split
    · rfl
    · split
      · rfl
      · rename_i command read
        apply perform_noted
        rintro path rfl opens
        obtain ⟨rfl, named⟩ := Command.read_eq_importFile_iff.1 read
        exact unstarted ⟨known, path, named, opens⟩

theorem runLine_heedless_of_unstarted {line : Text} (isOpen : workspace.session.closed = false)
    (unstarted : ¬ workspace.StartsImport line) :
    Heedless (fun now => now.runLine nested line) workspace := by
  have ran (successful : Bool) :
      ((workspace.noted successful).log (.dispatched (trim line))).dispatch nested (trim line) =
        ((workspace.log (.dispatched (trim line))).dispatch nested (trim line)).map id
          (noted successful) := by
    have unstartedThere : ¬ (workspace.log (.dispatched (trim line))).StartsImport line := unstarted
    exact dispatch_noted unstartedThere successful
  have openToo (successful : Bool) : ¬ (workspace.noted successful).session.closed = true := by
    simpa [noted, Session.note] using isOpen
  generalize (workspace.log (.dispatched (trim line))).dispatch nested (trim line) = outcome at ran
  obtain ⟨answer, left⟩ := outcome
  cases answer with
  | ok reply =>
    refine .renewed (.ok (.ok reply), left.update fun session =>
      (session.remember (trim line)).note true) (fun successful => ?_) (by simp)
    simp only [runLine, if_neg (openToo successful), ran]
    simp [noted, update, Session.note_remember]
  | error failure =>
    cases failure with
    | refused why =>
      refine .renewed (.ok (.error why), (left.log (.failed (trim line) why.message)).update
        fun session => session.note false) (fun successful => ?_) (by simp)
      simp only [runLine, if_neg (openToo successful), ran]
      rfl
    | broke why =>
      refine .left (.broke why) left fun successful => ?_
      simp only [runLine, if_neg (openToo successful), ran]
      rfl

/-- The note of a run that answers. -/
theorem successful_of_answered {line : Text} {reply : Reply} {left : Workspace}
    (ran : workspace.runLine nested line = (.ok (.ok reply), left)) :
    left.session.successful = true := by
  unfold runLine at ran
  split at ran
  · cases ran
  · split at ran
    · cases ran
      rfl
    · cases ran
    · cases ran

end

end Workspace

/-- A runner that treats the note like that. -/
def Runner.IsHeedless (nested : Runner) : Prop :=
  ∀ script workspace, Workspace.Heedless (nested script) workspace

namespace Workspace

variable {nested : Runner}

theorem concludeImport_heedless {line path script : Text} {place : Place} {workspace : Workspace}
    (opens : workspace.Opens line path place script)
    (heedless : Heedless (nested script) (workspace.begun line place)) :
    Heedless (fun now => now.runLine nested line) workspace := by
  have ran (successful : Bool) : (workspace.noted successful).runLine nested line =
      concludeImport line path (nested script ((workspace.begun line place).noted successful)) := by
    have opensToo : (workspace.noted successful).Opens line path place script :=
      ⟨opens.isOpen, opens.isImport, opens.named, opens.found, opens.idle, opens.stored⟩
    exact runLine_of_opens opensToo nested
  cases heedless with
  | renewed outcome same success =>
    refine .renewed (concludeImport line path outcome) (fun successful => ?_) ?_
    · simp only [ran, same]
    · obtain ⟨answer, left⟩ := outcome
      match answer with
      | .error (.broke why) => exact fun _ _ => success _ rfl
      | .error (.refused why) | .ok ⟨_, some failure⟩ | .ok ⟨_, none⟩ => simp [concludeImport]
  | left failure left same =>
    cases failure with
    | broke why =>
      refine .left (.broke why) (left.update Session.endImport) fun successful => ?_
      simp only [ran, same]
      rfl
    | refused why =>
      refine .renewed (concludeImport line path (.error (.refused why), left)) (fun successful => ?_)
        (by simp [concludeImport])
      simp only [ran, same]
      rfl

theorem runLine_heedless (heedless : nested.IsHeedless) (line : Text) (workspace : Workspace) :
    Heedless (fun now => now.runLine nested line) workspace := by
  cases isOpen : workspace.session.closed with
  | true =>
    exact .left (.refused .closed) workspace fun successful => runLine_of_closed nested line isOpen
  | false =>
    by_cases starts : workspace.StartsImport line
    · obtain ⟨path, place, script, opens⟩ := starts.exists_opens isOpen
      exact concludeImport_heedless opens (heedless script _)
    · exact runLine_heedless_of_unstarted isOpen starts

theorem runLines_heedless (heedless : nested.IsHeedless) (index : Nat) (lines : List Text)
    (workspace : Workspace) : Heedless (fun now => now.runLines nested index lines) workspace := by
  induction lines generalizing index workspace with
  | nil => exact .renewed (.ok ⟨[], none⟩, workspace.noted true) (fun _ => rfl) (by simp)
  | cons line rest ih =>
    cases isOpen : workspace.session.closed with
    | true =>
      refine .renewed (.ok ⟨[], none⟩, workspace.noted true) (fun successful => ?_) (by simp)
      have closedToo : (workspace.noted successful).session.closed = true := isOpen
      simp only [runLines, if_pos closedToo]
      rfl
    | false =>
      have openToo (successful : Bool) : ¬ (workspace.noted successful).session.closed = true := by
        simpa [noted, Session.note] using isOpen
      cases runLine_heedless heedless line workspace with
      | left failure left same =>
        refine .left failure left fun successful => ?_
        simp only [runLines, if_neg (openToo successful), same]
      | renewed outcome same success =>
        have ran (successful : Bool) :
            (workspace.noted successful).runLine nested line = outcome := same successful
        obtain ⟨answer, left⟩ := outcome
        cases answer with
        | error failure =>
          refine .renewed (.error failure, left) (fun successful => ?_) fun _ _ => success _ rfl
          simp only [runLines, if_neg (openToo successful), ran]
        | ok told =>
          cases told with
          | error why =>
            refine .renewed (.ok ⟨[], some ⟨some ⟨index, line⟩, why⟩⟩, left) (fun successful => ?_)
              (by simp)
            simp only [runLines, if_neg (openToo successful), ran]
          | ok reply =>
            refine .renewed ((workspace.noted true).runLines nested index (line :: rest))
              (fun successful => ?_) fun failure raised => ?_
            · simp only [runLines, if_neg (openToo _), ran]
            · -- The line has noted its success, so whatever is raised after it leaves that note.
              have noted := (ih (index + 1) left).successful (successful_of_answered (ran true))
              simp only [runLines, if_neg (openToo _), ran] at raised ⊢
              split at raised
              · rename_i other final ended
                rw [ended] at noted
                exact noted other rfl
              · cases raised

theorem runScript_heedless (heedless : nested.IsHeedless) :
    Runner.IsHeedless (runScript nested) := by
  intro script workspace
  cases isOpen : workspace.session.closed with
  | true =>
    exact .left (.refused .closed) workspace fun successful => runScript_of_closed nested script isOpen
  | false =>
    have openToo (successful : Bool) : (workspace.noted successful).session.closed = false := isOpen
    cases blank : script.all isBlank with
    | true =>
      refine .renewed (workspace.refuseScript .noText) (fun successful => ?_) (by simp [refuseScript])
      rw [runScript_of_blank (openToo successful) blank]
      rfl
    | false =>
      cases expanded : preprocess script with
      | error why =>
        refine .renewed ((workspace.told script).refuseScript (.script why)) (fun successful => ?_)
          (by simp [refuseScript])
        simp only [runScript_of_text (openToo successful) blank, expanded]
        rfl
      | ok text =>
        have ran (successful : Bool) : (workspace.noted successful).runScript nested script =
            ((workspace.told script).noted successful).runLines nested 1 (splitCommands text) := by
          simp only [runScript_of_text (openToo successful) blank, expanded]
          rfl
        cases runLines_heedless heedless 1 (splitCommands text) (workspace.told script) with
        | renewed outcome same success =>
          exact .renewed outcome (fun successful => (ran successful).trans (same successful)) success
        | left failure left same =>
          exact .left failure left fun successful => (ran successful).trans (same successful)

theorem runTo_isHeedless (depth : Nat) : (runTo depth).IsHeedless := by
  induction depth with
  | zero => exact fun _ workspace => .left (.broke .importsTooDeep) workspace fun _ => rfl
  | succ depth ih => exact runScript_heedless ih

end Workspace

end AutomataShell
