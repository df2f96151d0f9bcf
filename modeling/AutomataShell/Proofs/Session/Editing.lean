import AutomataShell.Proofs.Machine.Sequence
import AutomataShell.Proofs.Machine.Soundness
import AutomataShell.Proofs.Session.Calling

/-! Commands that extend the machine. Each is checked as a whole and then carried out as a whole, and
comes to the same as its steps one by one. So a session only ever holds machines that were built step
by step. -/

set_option autoImplicit false

namespace AutomataShell

open Text

/-- Whether the command extends the machine that is there. -/
def Verb.extends : Verb → Bool
  | .add | .connect | .accept => true
  | _ => false

namespace Command

/-- The steps of a command that extends the machine, one for each name or arrow. -/
def steps : Command → List BuildStep
  | .add names => names.map fun name => .node (Label.ofChar name) false
  | .connect source arrows => arrows.map fun arrow =>
      .edge (Label.ofChar source) (Label.ofChar arrow.1) (Label.ofChar arrow.2)
  | .accept names => names.map fun name => .accept (Label.ofChar name)
  | _ => []

/-- Whether the command is found in order on a machine before it changes anything. -/
def isInOrder (machine : Machine) : Command → Bool
  | .add names => (machine.checkNewNames [] names).isOk
  | .connect source arrows => (machine.checkArrows source arrows).isOk
  | .accept names => (names.filter fun name => !machine.nodes.contains name).isEmpty
  | _ => true

theorem eq_ok_of_isOk {Reason : Type} {outcome : Except Reason Unit}
    (isOk : outcome.isOk = true) : outcome = .ok () := by
  cases outcome with
  | error why => cases isOk
  | ok => rfl

theorem exists_attemptAll_of_isInOrder {machine : Machine} {command : Command}
    (extending : command.verb.extends = true) (inOrder : command.isInOrder machine = true) :
    ∃ next, machine.attemptAll command.steps = .ok next := by
  cases command with
  | create | execute | displayAll | display | help | exportFile | importFile | exit =>
    cases extending
  | add names =>
    refine (Machine.checkNewNames_iff_attemptAll names).1 ?_
    exact eq_ok_of_isOk inOrder
  | connect source arrows =>
    refine (Machine.checkArrows_iff_attemptAll source arrows).1 ?_
    rw [eq_ok_of_isOk inOrder]
    rfl
  | accept names =>
    refine (Machine.checkKnown_iff_attemptAll names).1 ?_
    rw [Machine.checkKnown, List.isEmpty_iff.1 inOrder]
    rfl

end Command

namespace Workspace

/-- A command that extends the machine edits it to what its steps make of it, or not at all. -/
theorem perform_eq_edit {command : Command} (extending : command.verb.extends = true) :
    ∃ change : Machine → Machine.Called Refusal Reply, Machine.IsAtomic change ∧
      (∀ nested workspace, perform nested workspace command = workspace.edit change) ∧
        ∀ machine next, (∃ reply, (change machine).made = .ok (next, reply)) ↔
          machine.attemptAll command.steps = .ok next := by
  cases command with
  | create | execute | displayAll | display | help | exportFile | importFile | exit =>
    cases extending
  | add names =>
    refine ⟨_, Machine.isAtomic_replying (Machine.isAtomic_addAll names) _, fun _ _ => rfl,
      fun machine next => ?_⟩
    rw [Command.steps, ← Machine.addAll_eq_ok_iff, Machine.exists_made_replying_iff]
  | connect source arrows =>
    refine ⟨_, Machine.isAtomic_replying (Machine.isAtomic_connectAll source arrows) _,
      fun _ _ => rfl, fun machine next => ?_⟩
    rw [Command.steps, ← Machine.connectAll_eq_ok_iff, Machine.exists_made_replying_iff]
  | accept names =>
    refine ⟨_, Machine.isAtomic_replying (Machine.isAtomic_acceptAll names) _, fun _ _ => rfl,
      fun machine next => ?_⟩
    rw [Command.steps, ← Machine.acceptAll_eq_ok_iff, Machine.exists_made_replying_iff]

theorem hasEffect_of_extends {line : Text} {verb : Verb} {command : Command}
    (known : Verb.ofKeyword (keywordOf line).1 = some verb) (extending : verb.extends = true)
    (read : Command.read verb (keywordOf line).2 = .ok command) :
    ∃ change : Machine → Except Refusal (Machine × Reply),
      HasEffect line (.edition change) ∧
        ∀ machine next, (∃ reply, change machine = .ok (next, reply)) ↔
          machine.attemptAll command.steps = .ok next := by
  have extendingCommand : command.verb.extends = true := by
    rwa [Command.verb_of_read read]
  obtain ⟨change, atomic, performed, exact⟩ := perform_eq_edit extendingCommand
  refine ⟨fun machine => (change machine).made, fun nested workspace => ?_, exact⟩
  rw [← Effect.edit_eq_run atomic]
  cases held : workspace.session.machine with
  | none =>
    have needed : verb.needsMachine = true := by
      cases verb <;> first | rfl | cases extending
    simp [dispatch, known, needed, held, edit]
  | some machine => simp [dispatch, known, held, read, performed]

/-- Either all steps of a line are carried out, or the line is refused. -/
theorem runLine_cases_of_extends {line : Text} {verb : Verb} {command : Command}
    {workspace : Workspace} {machine : Machine} (nested : Runner)
    (isOpen : workspace.session.closed = false)
    (held : workspace.session.machine = some machine)
    (known : Verb.ofKeyword (keywordOf (trim line)).1 = some verb)
    (extending : verb.extends = true)
    (read : Command.read verb (keywordOf (trim line)).2 = .ok command) :
    (∃ next reply left, machine.attemptAll command.steps = .ok next ∧
      workspace.runLine nested line = (.ok (.ok reply), left) ∧
        left.session = { workspace.session with
          machine := some next
          record := workspace.session.record ++ [trim line]
          successful := true }) ∨
    ∃ why left, (∀ next, machine.attemptAll command.steps ≠ .ok next) ∧
      workspace.runLine nested line = (.ok (.error why), left) := by
  obtain ⟨change, has, exact⟩ := hasEffect_of_extends known extending read
  have ran := runLine_of_hasEffect has nested isOpen
  rw [held, Effect.edition] at ran
  cases changed : change machine with
  | error why =>
    simp only [changed] at ran
    obtain ⟨left, refused, _⟩ := ran
    refine .inr ⟨why, left, fun next all => ?_, refused⟩
    obtain ⟨reply, succeeded⟩ := (exact machine next).2 all
    rw [changed] at succeeded
    cases succeeded
  | ok made =>
    simp only [changed] at ran
    obtain ⟨left, succeeded, session⟩ := ran
    refine .inl ⟨made.1, made.2, left, (exact machine made.1).1 ⟨made.2, changed⟩, succeeded, ?_⟩
    rw [session, Effect.after_eq _ _ _ isOpen]
    simp [Effect.recordBefore, isOpen]

/-- A line that extends the machine succeeds exactly when each of its steps could be carried out, one
after the other, and then comes to the same machine. Steps of a command that was found in order are
never refused, however the earlier ones have changed the machine. -/
theorem runLine_iff_attemptAll {line : Text} {verb : Verb} {command : Command}
    {workspace : Workspace} {machine : Machine} (nested : Runner)
    (isOpen : workspace.session.closed = false)
    (held : workspace.session.machine = some machine)
    (known : Verb.ofKeyword (keywordOf (trim line)).1 = some verb)
    (extending : verb.extends = true)
    (read : Command.read verb (keywordOf (trim line)).2 = .ok command) :
    (∃ answer, (workspace.runLine nested line).1 = .ok answer) ∧
      ((∃ reply, (workspace.runLine nested line).1 = .ok (.ok reply)) ↔
        ∃ next, machine.attemptAll command.steps = .ok next) ∧
      (∀ next, machine.attemptAll command.steps = .ok next →
        (workspace.runLine nested line).2.session.machine = some next) ∧
      (command.isInOrder machine = true →
        ∃ next, machine.attemptAll command.steps = .ok next) := by
  have allowed : command.isInOrder machine = true →
      ∃ next, machine.attemptAll command.steps = .ok next :=
    Command.exists_attemptAll_of_isInOrder (by rwa [Command.verb_of_read read])
  rcases runLine_cases_of_extends nested isOpen held known extending read with
    ⟨next, reply, left, all, succeeded, session⟩ | ⟨why, left, none, refused⟩
  · rw [succeeded]
    refine ⟨⟨_, rfl⟩, iff_of_true ⟨reply, rfl⟩ ⟨next, all⟩, fun other same => ?_, allowed⟩
    rw [all] at same
    cases same
    rw [session]
  · rw [refused]
    refine ⟨⟨_, rfl⟩, iff_of_false ?_ ?_, fun next all => absurd all (none next), allowed⟩
    · rintro ⟨reply, impossible⟩
      cases impossible
    · rintro ⟨next, all⟩
      exact none next all

/-- A deterministic machine on two nodes. -/
def twoNodes : Workspace :=
  ((start ⟨[], [], []⟩).executeScript "create dfa a, b; add x, y").2

/-- The last arrow takes the place of the first. -/
theorem runLine_iff_attemptAll_redrawn :
    (twoNodes.runLine (runTo 0) "connect x -> a:x, b:y, a:y").2.session.machine =
      some ⟨.deterministic, ['a', 'b'], ['x', 'y'], some 'x', [],
        [⟨'x', 'a', 'y'⟩, ⟨'x', 'b', 'y'⟩]⟩ := by
  have held : twoNodes.session.machine =
      some ⟨.deterministic, ['a', 'b'], ['x', 'y'], some 'x', [], []⟩ := by
    decide +kernel
  have known : Verb.ofKeyword (keywordOf (trim "connect x -> a:x, b:y, a:y")).1 = some .connect := by
    decide +kernel
  have read : Command.read .connect (keywordOf (trim "connect x -> a:x, b:y, a:y")).2 =
      .ok (.connect 'x' [('a', 'x'), ('b', 'y'), ('a', 'y')]) := by
    decide +kernel
  have reached := runLine_iff_attemptAll (runTo 0) (by decide +kernel) held known rfl read
  exact reached.2.2.1 _ (by decide +kernel)

end Workspace

end AutomataShell
