import AutomataShell.Proofs.Session.Editing

/-! The machines that sessions hold. Whatever a workspace has been through, its machine is one that was
created and then extended step by step. -/

set_option autoImplicit false

namespace AutomataShell

open Text

/-- If the session holds a machine, it is a lawful one. -/
def Session.IsLawful (session : Session) : Prop :=
  ∀ machine, session.machine = some machine → machine.IsLawful

namespace Workspace

variable {nested : Runner} {workspace : Workspace}

theorem edit_isLawful {change : Machine → Machine.Called Refusal Reply}
    (kept : ∀ machine, machine.IsLawful → (change machine).2.IsLawful)
    (lawful : workspace.session.IsLawful) : (workspace.edit change).2.session.IsLawful := by
  unfold edit
  split
  · exact lawful
  · rename_i machine held
    rintro _ ⟨⟩
    exact kept machine (lawful machine held)

/-- A command that a replay repeats. -/
theorem perform_isLawful {command : Command} (replayed : command.verb.isReplayed = true)
    (lawful : workspace.session.IsLawful) :
    (workspace.perform nested command).2.session.IsLawful := by
  cases extending : command.verb.extends with
  | true =>
    obtain ⟨change, atomic, performed, exact⟩ := perform_eq_edit extending
    rw [performed]
    refine edit_isLawful (fun machine kept => ?_) lawful
    cases said : (change machine).1 with
    | error why => exact (atomic machine why said).symm ▸ kept
    | ok reply =>
      exact Machine.attemptAll_keeps (fun lawful done => lawful.attempt done) kept
        ((exact machine _).1 ⟨reply, Machine.made_eq_ok_iff.2 (Prod.ext said rfl)⟩)
  | false =>
    cases command with
    | add | connect | accept => cases extending
    | displayAll | display | help | exportFile | importFile | exit => cases replayed
    | create kind symbols =>
      simp only [perform, create]
      split
      · exact lawful
      · rename_i machine created
        rintro _ ⟨⟩
        exact Machine.isLawful_of_create created
    | execute word => exact edit_isLawful (fun _ kept => kept) lawful

theorem dispatch_isLawful {line : Text} (replayed : isReplayable line = true)
    (lawful : workspace.session.IsLawful) :
    (workspace.dispatch nested line).2.session.IsLawful := by
  rcases workspace.dispatch_cases nested line with same | ⟨verb, command, known, read, performed⟩
  · rwa [same]
  · rw [performed]
    refine perform_isLawful ?_ lawful
    rw [Command.verb_of_read read]
    simpa [isReplayable, known] using replayed

end Workspace

theorem Session.Change.isLawful {allowed : Text → Prop} {session next : Session}
    (step : Session.Change allowed session next) (lawful : session.IsLawful) : next.IsLawful := by
  cases step with
  | noted | importBegun | importEnded => exact lawful
  | emptied | closed => exact fun machine held => by cases held
  | recorded =>
    unfold remember
    split <;> exact lawful
  | @rebuilt line effect machine reply isOpen permitted replayed has made =>
    -- The effect is that of the dispatched line in any workspace with this session.
    let workspace : Workspace := ⟨session, ⟨[], [], []⟩, []⟩
    have kept : (workspace.dispatch (Workspace.runTo 0) (trim line)).2.session.IsLawful :=
      Workspace.dispatch_isLawful replayed lawful
    rw [has, Effect.run] at kept
    rw [show effect.result workspace.session.machine = _ from made] at kept
    intro held same
    rw [Effect.after_eq _ _ _ isOpen] at same
    cases same
    refine kept machine ?_
    simp only [Workspace.update_session, Effect.settle]
    split <;> rfl

theorem Session.isLawful_of_changes {allowed : Text → Prop} {session next : Session}
    (steps : Relation.ReflTransGen (Session.Change allowed) session next)
    (lawful : session.IsLawful) : next.IsLawful := by
  induction steps with
  | refl => exact lawful
  | tail _ step ih => exact step.isLawful ih

theorem Workspace.isLawful_operateAll (disk : Disk) (operations : List Operation) :
    ((start disk).operateAll operations).session.IsLawful := by
  have changes : Relation.ReflTransGen (Session.Change fun _ => True) (start disk).session
      ((start disk).operateAll operations).session :=
    operateAll_changes (fun _ _ _ _ _ => trivial) (fun _ _ _ _ => trivial) (start disk)
  exact Session.isLawful_of_changes changes fun machine held => by cases held

end AutomataShell
