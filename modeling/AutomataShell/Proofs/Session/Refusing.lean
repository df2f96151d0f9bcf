import AutomataShell.Proofs.Session.Atomicity
import AutomataShell.Session.Execute

/-! Lines that are refused. Whatever is wrong with a line is found before the session changes, unless
the line imports a file whose script has begun to run. -/

set_option autoImplicit false

namespace AutomataShell.Workspace

open Text

/-- Whether an import gets as far as running the script of its file. -/
def OpensScript (workspace : Workspace) (path : Text) : Prop :=
  ∃ place script, importPlace path workspace.disk = .ok place ∧
    place ∉ workspace.session.importing ∧ workspace.disk.readText place.shown = .ok script

def StartsImport (workspace : Workspace) (line : Text) : Prop :=
  Verb.ofKeyword (keywordOf (trim line)).1 = some .importFile ∧
    ∃ path, Command.readPath (keywordOf (trim line)).2 = .ok path ∧ workspace.OpensScript path

variable {nested : Runner} {workspace left : Workspace}

theorem create_of_refused {kind : Kind} {symbols : List Char} {failure : Failure Refusal}
    (refused : workspace.create kind symbols = (.error failure, left)) : left = workspace := by
  unfold create at refused
  split at refused
  · exact (Prod.mk.inj refused).2.symm
  · cases (Prod.mk.inj refused).1

theorem exportFile_of_refused {path : Text} {failure : Failure FileError}
    (refused : workspace.exportFile path = (.error failure, left)) : left = workspace := by
  unfold exportFile at refused
  split at refused
  · exact (Prod.mk.inj refused).2.symm
  · simp only at refused
    split at refused
    · exact (Prod.mk.inj refused).2.symm
    · cases (Prod.mk.inj refused).1

theorem importFile_of_refused {path : Text} {failure : Failure Refusal}
    (unopened : ¬ workspace.OpensScript path)
    (refused : workspace.importFile nested path = (.error failure, left)) : left = workspace := by
  unfold importFile at refused
  split at refused
  · exact (Prod.mk.inj refused).2.symm
  · rename_i place found
    split at refused
    · exact (Prod.mk.inj refused).2.symm
    · rename_i idle
      split at refused
      · exact (Prod.mk.inj refused).2.symm
      · rename_i script opened
        exact absurd ⟨place, script, found, by simpa using idle, opened⟩ unopened

/-- A command that is refused leaves the workspace alone, unless it runs the script of a file. -/
theorem perform_of_refused {command : Command} {failure : Failure Refusal}
    (unopened : ∀ path, command = .importFile path → ¬ workspace.OpensScript path)
    (refused : workspace.perform nested command = (.error failure, left)) : left = workspace := by
  cases needed : command.verb.needsMachine with
  | true =>
    obtain ⟨change, atomic, performed⟩ := perform_eq_edit_of_needsMachine needed
    rw [performed] at refused
    exact edit_of_refused atomic refused
  | false =>
    cases command with
    | add | connect | accept | execute | displayAll | display => cases needed
    | create kind symbols => exact create_of_refused refused
    | help topic => cases (Prod.mk.inj refused).1
    | exit => cases (Prod.mk.inj refused).1
    | exportFile path =>
      simp only [perform] at refused
      split at refused
      · rename_i why kept same
        rw [← (Prod.mk.inj refused).2]
        exact exportFile_of_refused same
      · cases (Prod.mk.inj refused).1
    | importFile path =>
      simp only [perform] at refused
      split at refused
      · rename_i why kept same
        rw [← (Prod.mk.inj refused).2]
        exact importFile_of_refused (unopened path rfl) same
      · cases (Prod.mk.inj refused).1

theorem severity_of_checkNewNames {machine : Machine} {listed names : List Char} {why : Refusal}
    (refused : machine.checkNewNames listed names = .error why) : why.severity ≠ .fatal := by
  induction names generalizing listed with
  | nil => cases refused
  | cons name rest ih =>
    unfold Machine.checkNewNames at refused
    split at refused
    · cases refused
      simp [Refusal.severity]
    · split at refused
      · cases refused
        simp [Refusal.severity]
      · exact ih refused

theorem error_of_map {Reason α β : Type} {change : α → β} {outcome : Except Reason α} {why : Reason}
    (failed : outcome.map change = .error why) : outcome = .error why := by
  cases outcome <;> simp_all [Except.map]

theorem severity_of_mapError {α : Type} {outcome : Except MachineError α} {why : Refusal}
    (failed : outcome.mapError .machine = .error why) : why.severity ≠ .fatal := by
  cases outcome with
  | error other =>
    cases failed
    simp [Refusal.severity]
  | ok => cases failed

theorem severity_of_callChecked {machine : Machine} {found : Except Refusal Unit}
    {calls : List (Machine → Machine.Called MachineError Unit)} {reply : Reply} {why : Refusal}
    (mild : ∀ why, found = .error why → why.severity ≠ .fatal)
    (failed : ((machine.callChecked found calls).replying reply).1 = .error why) :
    why.severity ≠ .fatal := by
  have refused := error_of_map failed
  unfold Machine.callChecked at refused
  split at refused
  · cases refused
    exact mild why rfl
  · exact severity_of_mapError refused

theorem edit_severity {change : Machine → Machine.Called Refusal Reply} {why : Refusal}
    (mild : ∀ machine why, (change machine).1 = .error why → why.severity ≠ .fatal)
    (refused : (workspace.edit change).1 = .error (.refused why)) : why.severity ≠ .fatal := by
  unfold edit at refused
  split at refused
  · cases refused
    simp [Refusal.severity]
  · rename_i machine held
    cases said : (change machine).1 with
    | error other =>
      simp only [said, mapError_error, Except.error.injEq, Failure.refused.injEq] at refused
      exact refused ▸ mild machine other said
    | ok reply => simp [said] at refused

/-- Nothing but an import can be refused for something fatal. -/
theorem perform_severity {command : Command} {why : Refusal}
    (noImport : ∀ path, command ≠ .importFile path)
    (refused : (workspace.perform nested command).1 = .error (.refused why)) :
    why.severity ≠ .fatal := by
  cases command with
  | create kind symbols =>
    simp only [perform, create] at refused
    split at refused
    · cases refused
      simp [Refusal.severity]
    · cases refused
  | add names =>
    exact edit_severity (fun _ _ => severity_of_callChecked fun _ => severity_of_checkNewNames) refused
  | connect source arrows =>
    exact edit_severity (fun _ _ => severity_of_callChecked fun _ => severity_of_mapError) refused
  | accept names =>
    exact edit_severity (fun _ _ => severity_of_callChecked fun _ => severity_of_mapError) refused
  | execute | display =>
    exact edit_severity (fun _ _ failed => severity_of_mapError (error_of_map failed)) refused
  | displayAll =>
    refine edit_severity (fun _ _ failed => ?_) refused
    cases failed
  | help | exit => cases refused
  | exportFile path =>
    simp only [perform] at refused
    split at refused
    · rename_i failure _ _
      cases failure <;> cases refused
      simp [Refusal.severity]
    · cases refused
  | importFile path => exact absurd rfl (noImport path)

theorem dispatch_of_refused {line : Text} {failure : Failure Refusal}
    (unstarted : ¬ workspace.StartsImport line)
    (refused : workspace.dispatch nested (trim line) = (.error failure, left)) :
    left = workspace := by
  unfold dispatch at refused
  simp only at refused
  split at refused
  · exact (Prod.mk.inj refused).2.symm
  · rename_i verb known
    split at refused
    · exact (Prod.mk.inj refused).2.symm
    · split at refused
      · exact (Prod.mk.inj refused).2.symm
      · rename_i command read
        refine perform_of_refused ?_ refused
        rintro path rfl opens
        have isImport : .importFile = verb := Command.verb_of_read read
        subst isImport
        obtain ⟨named, readPath, same⟩ := Command.map_eq_ok_iff.1 read
        cases same
        exact unstarted ⟨known, path, readPath, opens⟩

/-- A refused line changes nothing but the note of the last success, unless it is an import that has
begun to run the script of its file. This holds wherever the line stands, in a script of any depth
too. -/
theorem runLine_of_refused {line : Text} {why : Refusal}
    (unstarted : ¬ workspace.StartsImport line)
    (refused : workspace.runLine nested line = (.ok (.error why), left)) :
    left.session = { workspace.session with successful := false } ∧ left.disk = workspace.disk := by
  unfold runLine at refused
  split at refused
  · cases (Prod.mk.inj refused).1
  · split at refused
    · cases (Prod.mk.inj refused).1
    · rename_i reason kept dispatched
      have same : kept = workspace.log (.dispatched (trim line)) :=
        dispatch_of_refused unstarted dispatched
      rw [← (Prod.mk.inj refused).2, same]
      exact ⟨rfl, rfl⟩
    · cases (Prod.mk.inj refused).1

/-- A session with one node. -/
def oneNode : Workspace :=
  ((start ⟨[], [], []⟩).executeScript "create nfa a; add x").2

/-- The first edge could be drawn, but the second leads to no node. -/
theorem runLine_of_refused_edge :
    ∃ left, oneNode.runLine (runTo 0) "connect x -> a:x, a:y" =
        (.ok (.error (.machine (.unknownNodes [Label.ofChar 'y']))), left) ∧
      left.session = { oneNode.session with successful := false } := by
  have unstarted : ¬ oneNode.StartsImport "connect x -> a:x, a:y" := by
    rintro ⟨isImport, _⟩
    revert isImport
    decide +kernel
  have answer : (oneNode.runLine (runTo 0) "connect x -> a:x, a:y").1 =
      .ok (.error (.machine (.unknownNodes [Label.ofChar 'y']))) := by
    decide +kernel
  have refused : oneNode.runLine (runTo 0) "connect x -> a:x, a:y" =
      (.ok (.error (.machine (.unknownNodes [Label.ofChar 'y']))),
        (oneNode.runLine (runTo 0) "connect x -> a:x, a:y").2) :=
    Prod.ext answer rfl
  exact ⟨_, refused, (runLine_of_refused unstarted refused).1⟩

end AutomataShell.Workspace
