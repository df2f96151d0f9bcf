import AutomataShell.Proofs.Session.Refusing

/-! What a run comes down to: a script to the lines of its expansion, and a line that imports to the
script of the file. For all other lines the runner of imports does not matter. -/

set_option autoImplicit false

namespace AutomataShell

open Text

/-- The commands that a script comes down to. There are none if it has no expansion. -/
def Script.commandsOf (script : Text) : List Text :=
  match preprocess script with
  | .error _ => []
  | .ok expanded => splitCommands expanded

namespace Workspace

/-- The workspace once the definitions of a script are in the journal. -/
def told (script : Text) (workspace : Workspace) : Workspace :=
  workspace.logAll ((Script.expansion script).1.definitionsInOrder.map definitionEvent)

@[simp] theorem told_session (script : Text) (workspace : Workspace) :
    (workspace.told script).session = workspace.session := rfl

variable {nested other : Runner} {workspace : Workspace} {script : Text}

theorem runScript_of_blank (isOpen : workspace.session.closed = false)
    (blank : script.all isBlank = true) :
    workspace.runScript nested script = workspace.refuseScript .noText := by
  rw [runScript, if_neg (by simp [isOpen]), if_pos blank]

/-- A script with text runs the commands of its expansion, or is refused as its expansion is. -/
theorem runScript_of_text (isOpen : workspace.session.closed = false)
    (text : script.all isBlank = false) :
    workspace.runScript nested script =
      match Script.preprocess script with
      | .error why => (workspace.told script).refuseScript (.script why)
      | .ok expanded =>
        (workspace.told script).runLines nested 1 (Script.splitCommands expanded) := by
  rw [runScript, if_neg (by simp [isOpen]), if_neg (by simp [text]), Script.preprocess,
    Script.expand, told]
  cases Script.expansion script with
  | mk expanded fault => cases fault <;> rfl

/-- A script that comes down to commands runs them. -/
theorem runScript_of_commands (isOpen : workspace.session.closed = false)
    (isText : script.all isBlank = false) (some : Script.commandsOf script ≠ []) :
    workspace.runScript nested script =
      (workspace.told script).runLines nested 1 (Script.commandsOf script) := by
  rw [runScript_of_text isOpen isText]
  unfold Script.commandsOf at some ⊢
  split
  · rename_i why unexpanded
    rw [unexpanded] at some
    exact absurd rfl some
  · rfl

/-- A line that gets as far as running the script of a file. -/
structure Opens (workspace : Workspace) (line path : Text) (place : Place) (script : Text) :
    Prop where
  isOpen : workspace.session.closed = false
  isImport : Verb.ofKeyword (keywordOf (trim line)).1 = some .importFile
  named : Command.readPath (keywordOf (trim line)).2 = .ok path
  found : importPlace path workspace.disk = .ok place
  idle : place ∉ workspace.session.importing
  stored : workspace.disk.readText place.shown = .ok script

theorem StartsImport.exists_opens {workspace : Workspace} {line : Text}
    (starts : workspace.StartsImport line) (isOpen : workspace.session.closed = false) :
    ∃ path place script, workspace.Opens line path place script := by
  obtain ⟨isImport, path, named, place, script, found, idle, stored⟩ := starts
  exact ⟨path, place, script, isOpen, isImport, named, found, idle, stored⟩

/-- The workspace in which the script of an imported file begins. -/
def begun (line : Text) (place : Place) (workspace : Workspace) : Workspace :=
  ((workspace.log (.dispatched (trim line))).log (.importing place)).update fun session =>
    session.reset.beginImport place

/-- What a line still does when the script that it imports has ended. -/
def concludeImport (line path : Text) :
    Outcome Refusal BatchResult → Outcome Refusal (Except Refusal Reply)
  | (.error (.broke why), left) => (.error (.broke why), left.update Session.endImport)
  | (.error (.refused why), left) =>
    (.ok (.error why), ((left.update Session.endImport).log
      (.failed (trim line) why.message)).update fun session => session.note false)
  | (.ok ⟨_, some failure⟩, left) =>
    let why := Refusal.importFailed path failure.position failure.why
    (.ok (.error why), ((left.update Session.endImport).log
      (.failed (trim line) why.message)).update fun session => session.note false)
  | (.ok ⟨_, none⟩, left) =>
    (.ok (.ok .imported), (left.update Session.endImport).update fun session =>
      (session.remember (trim line)).note true)

theorem runLine_of_opens {line path : Text} {place : Place}
    (opens : workspace.Opens line path place script) (nested : Runner) :
    workspace.runLine nested line =
      concludeImport line path (nested script (workspace.begun line place)) := by
  have read : Command.read .importFile (keywordOf (trim line)).2 = .ok (.importFile path) :=
    Command.map_eq_ok_iff.2 ⟨path, opens.named, rfl⟩
  have idle : workspace.session.importing.contains place = false := by simpa using opens.idle
  unfold runLine
  rw [if_neg (by simp [opens.isOpen])]
  simp only [dispatch, opens.isImport, Verb.needsMachine, Bool.false_and, Bool.false_eq_true,
    if_false, read, perform, importFile, log_disk, log_session, opens.found, idle, opens.stored,
    runImported, begun]
  generalize nested script _ = done
  obtain ⟨outcome, left⟩ := done
  cases outcome with
  | error failure => cases failure <;> rfl
  | ok result =>
    obtain ⟨replies, failed⟩ := result
    cases failed <;> rfl

variable {Reason α : Type}

/-- Whether an action is the same whatever runs imports, never too deep, and without an effect on the
imports in progress. -/
structure IsUnaided (workspace : Workspace) (action : Runner → Outcome Reason α) : Prop where
  alike : ∀ nested other, action nested = action other
  shallow : ∀ nested, (action nested).1 ≠ .error (.broke .importsTooDeep)
  importing : ∀ nested, (action nested).2.session.importing = workspace.session.importing

theorem isUnaided_of_eq {outcome : Outcome Reason α}
    (shallow : outcome.1 ≠ .error (.broke .importsTooDeep))
    (importing : outcome.2.session.importing = workspace.session.importing) :
    workspace.IsUnaided fun _ => outcome :=
  ⟨fun _ _ => rfl, fun _ => shallow, fun _ => importing⟩

theorem edit_isUnaided (change : Machine → Machine.Called Refusal Reply) :
    workspace.IsUnaided fun _ => workspace.edit change := by
  unfold edit
  split
  · exact isUnaided_of_eq (by simp) rfl
  · rename_i machine held
    refine isUnaided_of_eq ?_ rfl
    cases said : (change machine).1 <;> simp [said]

theorem create_isUnaided (kind : Kind) (symbols : List Char) :
    workspace.IsUnaided fun _ => workspace.create kind symbols := by
  unfold create
  split <;> exact isUnaided_of_eq (by simp) rfl

theorem expandHome_ne_importsTooDeep (path : Path) (homes : List (Text × Place)) :
    path.expandHome homes ≠ .error .importsTooDeep := by
  unfold Path.expandHome
  split
  · split
    · simp
    · split <;> simp
  · simp

theorem readText_ne_importsTooDeep (disk : Disk) (path : Text) :
    disk.readText path ≠ .error (.broke .importsTooDeep) := by
  unfold Disk.readText
  split
  · simp
  · split <;> simp

theorem writeText_ne_importsTooDeep (disk : Disk) (path text : Text) :
    disk.writeText path text ≠ .error (.broke .importsTooDeep) := by
  unfold Disk.writeText
  split
  · simp
  · split <;> simp

theorem exportFile_isUnaided (path : Text) :
    workspace.IsUnaided fun _ => workspace.exportFile path := by
  unfold exportFile
  split
  · rename_i why unexpanded
    refine isUnaided_of_eq ?_ rfl
    rintro same
    cases same
    exact expandHome_ne_importsTooDeep _ _ unexpanded
  · simp only
    split
    · rename_i failure failed
      refine isUnaided_of_eq ?_ rfl
      rintro same
      cases same
      exact writeText_ne_importsTooDeep _ _ _ failed
    · exact isUnaided_of_eq (by simp) rfl

theorem importFile_isUnaided {path : Text} (unopened : ¬ workspace.OpensScript path) :
    workspace.IsUnaided fun nested => workspace.importFile nested path := by
  unfold importFile
  split
  · rename_i why unfound
    refine isUnaided_of_eq ?_ rfl
    rintro same
    cases same
    unfold importPlace at unfound
    split at unfound
    · cases unfound
      rename_i unexpanded
      exact expandHome_ne_importsTooDeep _ _ unexpanded
    · split at unfound <;> cases unfound
  · rename_i place found
    split
    · exact isUnaided_of_eq (by simp) rfl
    · rename_i idle
      split
      · rename_i failure failed
        refine isUnaided_of_eq ?_ rfl
        rintro same
        cases failure with
        | refused why => cases same
        | broke why =>
          cases same
          exact readText_ne_importsTooDeep _ _ failed
      · rename_i script stored
        exact absurd ⟨place, script, found, by simpa using idle, stored⟩ unopened

/-- What an unaided action comes to. -/
theorem IsUnaided.outcome {action : Runner → Outcome Reason α} (unaided : workspace.IsUnaided action) :
    ∃ outcome, (∀ nested, action nested = outcome) ∧ workspace.IsUnaided fun _ => outcome := by
  refine ⟨action (runTo 0), fun nested => unaided.alike nested _, ?_⟩
  exact isUnaided_of_eq (unaided.shallow _) (unaided.importing _)

theorem perform_isUnaided {command : Command}
    (unopened : ∀ path, command = .importFile path → ¬ workspace.OpensScript path) :
    workspace.IsUnaided fun nested => workspace.perform nested command := by
  cases command with
  | create kind symbols => exact create_isUnaided kind symbols
  | add | connect | accept | execute | displayAll | display =>
    simp only [perform]
    exact edit_isUnaided _
  | help topic => exact isUnaided_of_eq (by simp) rfl
  | exit => exact isUnaided_of_eq (by simp) rfl
  | exportFile path =>
    have unaided : workspace.IsUnaided fun _ => workspace.exportFile path :=
      exportFile_isUnaided path
    have shallow := unaided.shallow (runTo 0)
    have importing := unaided.importing (runTo 0)
    simp only [perform]
    generalize workspace.exportFile path = outcome at shallow importing ⊢
    obtain ⟨exported, left⟩ := outcome
    rcases exported with (why | why) | count
    · exact isUnaided_of_eq (by simp [Failure.map]) importing
    · refine isUnaided_of_eq (fun tooDeep => shallow ?_) importing
      cases tooDeep
      rfl
    · exact isUnaided_of_eq (by simp) importing
  | importFile path =>
    obtain ⟨⟨result, left⟩, same, unaided⟩ := (importFile_isUnaided (unopened path rfl)).outcome
    simp only [perform, same]
    have importing := unaided.importing (runTo 0)
    cases result with
    | error failure =>
      refine isUnaided_of_eq (fun tooDeep => unaided.shallow (runTo 0) ?_) importing
      cases tooDeep
      rfl
    | ok result => exact isUnaided_of_eq (by simp) importing

theorem dispatch_isUnaided {line : Text} (unstarted : ¬ workspace.StartsImport line) :
    workspace.IsUnaided fun nested => workspace.dispatch nested (trim line) := by
  unfold dispatch
  simp only
  split
  · exact isUnaided_of_eq (by simp) rfl
  · rename_i verb known
    split
    · exact isUnaided_of_eq (by simp) rfl
    · split
      · exact isUnaided_of_eq (by simp) rfl
      · rename_i command read
        apply perform_isUnaided
        rintro path rfl opens
        have isImport : .importFile = verb := Command.verb_of_read read
        subst isImport
        obtain ⟨named, readPath, same⟩ := Command.map_eq_ok_iff.1 read
        cases same
        exact unstarted ⟨known, path, readPath, opens⟩

theorem importing_remember (session : Session) (line : Text) :
    (session.remember line).importing = session.importing := by
  unfold Session.remember
  split <;> rfl

/-- A line that opens no script is answered whatever runs imports. -/
theorem runLine_isUnaided {line : Text}
    (unstarted : workspace.session.closed = false → ¬ workspace.StartsImport line) :
    workspace.IsUnaided fun nested => workspace.runLine nested line := by
  unfold runLine
  split
  · exact isUnaided_of_eq (by simp) rfl
  · rename_i isOpen
    have unaided : (workspace.log (.dispatched (trim line))).IsUnaided fun nested =>
        (workspace.log (.dispatched (trim line))).dispatch nested (trim line) :=
      dispatch_isUnaided (unstarted (by simpa using isOpen))
    obtain ⟨⟨result, left⟩, same, unaided⟩ := unaided.outcome
    have importing := unaided.importing (runTo 0)
    simp only [same]
    match result with
    | .ok reply => exact isUnaided_of_eq (by simp) ((importing_remember _ _).trans importing)
    | .error (.refused why) => exact isUnaided_of_eq (by simp) importing
    | .error (.broke why) =>
      refine isUnaided_of_eq (fun tooDeep => unaided.shallow (runTo 0) ?_) importing
      cases tooDeep
      rfl

/-- A line either comes down to the script that it imports, or does without imports. -/
theorem runLine_cases (line : Text) (workspace : Workspace) :
    (∃ path place script, workspace.Opens line path place script) ∨
      workspace.IsUnaided fun nested => workspace.runLine nested line := by
  by_cases opens : ∃ path place script, workspace.Opens line path place script
  · exact Or.inl opens
  · exact Or.inr (runLine_isUnaided fun isOpen starts => opens (starts.exists_opens isOpen))

theorem importing_concludeImport (line path : Text) (outcome : Outcome Refusal BatchResult) :
    (concludeImport line path outcome).2.session.importing =
      outcome.2.session.importing.tail := by
  match outcome with
  | (.error (.broke why), left) => rfl
  | (.error (.refused why), left) => rfl
  | (.ok ⟨replies, some failure⟩, left) => rfl
  | (.ok ⟨replies, none⟩, left) => exact importing_remember _ _

theorem shallow_concludeImport (line path : Text) {outcome : Outcome Refusal BatchResult}
    (shallow : outcome.1 ≠ .error (.broke .importsTooDeep)) :
    (concludeImport line path outcome).1 ≠ .error (.broke .importsTooDeep) := by
  match outcome with
  | (.error (.broke why), left) =>
    intro tooDeep
    cases tooDeep
    exact shallow rfl
  | (.error (.refused why), left) => simp [concludeImport]
  | (.ok ⟨replies, some failure⟩, left) => simp [concludeImport]
  | (.ok ⟨replies, none⟩, left) => simp [concludeImport]

end Workspace

/-- A runner that ends every import that it begins. -/
def Runner.EndsImports (nested : Runner) : Prop :=
  ∀ script workspace, (nested script workspace).2.session.importing = workspace.session.importing

namespace Workspace

variable {nested : Runner}

theorem runLine_importing (ends : nested.EndsImports) (line : Text) (workspace : Workspace) :
    (workspace.runLine nested line).2.session.importing = workspace.session.importing := by
  rcases runLine_cases line workspace with ⟨path, place, script, opens⟩ | unaided
  · rw [runLine_of_opens opens, importing_concludeImport, ends]
    rfl
  · exact unaided.importing nested

theorem runLines_importing (ends : nested.EndsImports) (index : Nat) (lines : List Text)
    (workspace : Workspace) :
    (workspace.runLines nested index lines).2.session.importing = workspace.session.importing := by
  apply runLines_keeps (P := fun reached => reached.session.importing = workspace.session.importing)
  · exact fun _ _ same => same
  · exact fun line _ reached same => (runLine_importing ends line reached).trans same
  · rfl

theorem runScript_importing (ends : nested.EndsImports) (script : Text) (workspace : Workspace) :
    (workspace.runScript nested script).2.session.importing = workspace.session.importing := by
  cases isOpen : workspace.session.closed with
  | true => rw [runScript_of_closed _ _ isOpen]
  | false =>
    cases blank : script.all isBlank with
    | true =>
      rw [runScript_of_blank isOpen blank]
      rfl
    | false =>
      rw [runScript_of_text isOpen blank]
      split
      · rfl
      · exact runLines_importing ends 1 _ _

theorem runTo_endsImports (depth : Nat) : (runTo depth).EndsImports := by
  induction depth with
  | zero => exact fun _ _ => rfl
  | succ depth ih => exact runScript_importing ih

end Workspace

end AutomataShell
