import AutomataShell.Proofs.Command.Reading
import AutomataShell.Proofs.Machine.Sequence
import AutomataShell.Session.Run

/-! Commands on the machine that are refused. Such a command keeps whatever machine its calls have
reached, so a session is left as it was only because no command begins to change the machine before
all that could be refused has been looked at. -/

set_option autoImplicit false

namespace AutomataShell

namespace Machine

/-- The machine that a call leaves and what it says, if it was carried out. -/
def Called.made {Reason α : Type} (called : Called Reason α) : Except Reason (Machine × α) :=
  called.1.map fun value => (called.2, value)

theorem made_eq_ok_iff {Reason α : Type} {called : Called Reason α} {machine : Machine} {value : α} :
    called.made = .ok (machine, value) ↔ called = (.ok value, machine) := by
  obtain ⟨_ | _, _⟩ := called <;> simp [Called.made, Except.map, and_comm]

theorem exists_made_replying_iff {called : Called Refusal Unit} {reply : Reply}
    {machine : Machine} :
    (∃ said, (called.replying reply).made = .ok (machine, said)) ↔ called.done = .ok machine := by
  obtain ⟨_ | _, _⟩ := called <;> simp [Called.replying, Called.made, Called.done, Except.map]

theorem isAtomic_replying {change : Machine → Called Refusal Unit} (atomic : IsAtomic change)
    (reply : Reply) : IsAtomic fun machine => (change machine).replying reply := by
  intro machine why failed
  cases said : (change machine).1 with
  | error other => exact atomic machine other said
  | ok => simp [Called.replying, said, Except.map] at failed

theorem isAtomic_reading {α : Type} (found : Machine → Except MachineError α) (reply : α → Reply) :
    IsAtomic fun machine => machine.reading (found machine) reply :=
  fun _ _ _ => rfl

end Machine

namespace Workspace

variable {change : Machine → Machine.Called Refusal Reply}

/-- Every command that needs a machine is all or nothing. -/
theorem perform_eq_edit_of_needsMachine {command : Command}
    (needed : command.verb.needsMachine = true) :
    ∃ change : Machine → Machine.Called Refusal Reply, Machine.IsAtomic change ∧
      ∀ nested workspace, perform nested workspace command = workspace.edit change := by
  cases command with
  | create | help | exportFile | importFile | exit => cases needed
  | add names =>
    exact ⟨_, Machine.isAtomic_replying (Machine.isAtomic_addAll names) _, fun _ _ => rfl⟩
  | connect source arrows =>
    exact ⟨_, Machine.isAtomic_replying (Machine.isAtomic_connectAll source arrows) _,
      fun _ _ => rfl⟩
  | accept names =>
    exact ⟨_, Machine.isAtomic_replying (Machine.isAtomic_acceptAll names) _, fun _ _ => rfl⟩
  | execute word => exact ⟨_, Machine.isAtomic_reading (Machine.accepts · word) _, fun _ _ => rfl⟩
  | displayAll => exact ⟨_, Machine.isAtomic_reading (.ok ·.describe) _, fun _ _ => rfl⟩
  | display names =>
    exact ⟨_, Machine.isAtomic_reading (Machine.describeAll · names) _, fun _ _ => rfl⟩

/-- A change that is all or nothing leaves the workspace alone when it is refused. -/
theorem edit_of_atomic (atomic : Machine.IsAtomic change) (workspace : Workspace) :
    workspace.edit change =
      match workspace.session.machine with
      | none => (.error (.refused .noMachine), workspace)
      | some machine =>
        match (change machine).made with
        | .error why => (.error (.refused why), workspace)
        | .ok (changed, reply) =>
          (.ok reply, workspace.update fun session => session.replaceMachine changed) := by
  unfold edit
  cases held : workspace.session.machine with
  | none => rfl
  | some machine =>
    have unchanged := atomic machine
    simp only
    generalize change machine = called at unchanged ⊢
    obtain ⟨why | reply, left⟩ := called
    · obtain rfl : left = machine := unchanged why rfl
      have same : (workspace.update fun session => session.replaceMachine left) = workspace := by
        rw [update, Session.replaceMachine, ← held]
      rw [same]
      rfl
    · rfl

/-- A command that a machine refuses leaves the workspace as it was. -/
theorem edit_of_refused (atomic : Machine.IsAtomic change) {workspace left : Workspace}
    {failure : Failure Refusal} (refused : workspace.edit change = (.error failure, left)) :
    left = workspace := by
  rw [edit_of_atomic atomic] at refused
  split at refused
  · exact (Prod.mk.inj refused).2.symm
  · split at refused
    · exact (Prod.mk.inj refused).2.symm
    · cases (Prod.mk.inj refused).1

end Workspace

end AutomataShell
