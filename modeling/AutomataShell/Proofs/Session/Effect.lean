import AutomataShell.Proofs.Session.Atomicity

/-! The lines that a replay repeats. What such a line does depends on nothing but the machine, so it
can be told apart from the session, the files and the runner of imports. -/

set_option autoImplicit false

namespace AutomataShell

open Text

/-- What a line makes of the machine. A line that starts anew does not look at the machine before it
and wipes the record. -/
structure Effect where
  startsAnew : Bool
  result : Option Machine → Except Refusal (Machine × Reply)
  anew : startsAnew = true → ∀ machine, result machine = result none

namespace Effect

variable (effect : Effect)

def settle (machine : Machine) (session : Session) : Session :=
  if effect.startsAnew then session.adopt machine else session.replaceMachine machine

def run (workspace : Workspace) : Outcome Refusal Reply :=
  match effect.result workspace.session.machine with
  | .error why => (.error (.refused why), workspace)
  | .ok (machine, reply) => (.ok reply, workspace.update (effect.settle machine))

def creation (made : Except Refusal Machine) : Effect where
  startsAnew := true
  result _ := made.map fun machine => (machine, .created)
  anew _ _ := rfl

def edition (change : Machine → Except Refusal (Machine × Reply)) : Effect where
  startsAnew := false
  result
    | none => .error .noMachine
    | some machine => change machine
  anew impossible := by cases impossible

theorem edit_eq_run {change : Machine → Machine.Called Refusal Reply}
    (atomic : Machine.IsAtomic change) (workspace : Workspace) :
    workspace.edit change = (edition fun machine => (change machine).made).run workspace := by
  rw [Workspace.edit_of_atomic atomic]
  unfold run
  cases workspace.session.machine with
  | none => rfl
  | some machine => rfl

/-- The session after a line has succeeded. -/
def after (machine : Machine) (line : Text) (session : Session) : Session :=
  ((effect.settle machine session).remember line).note true

/-- The record that the line is added to. -/
def recordBefore (record : List Text) : List Text :=
  if effect.startsAnew then [] else record

theorem after_eq (machine : Machine) (line : Text) {session : Session}
    (isOpen : session.closed = false) :
    effect.after machine line session =
      ⟨some machine, effect.recordBefore session.record ++ [line], false, session.importing, true⟩ := by
  unfold after settle recordBefore
  split <;> simp [Session.adopt, Session.replaceMachine, Session.remember, Session.note, isOpen]

end Effect

/-- Whether dispatching a line comes down to an effect, wherever it is done. -/
def HasEffect (line : Text) (effect : Effect) : Prop :=
  ∀ nested workspace, Workspace.dispatch nested line workspace = effect.run workspace

namespace Workspace

theorem create_eq_run (kind : Kind) (symbols : List Char) :
    ∃ made, ∀ workspace : Workspace,
      workspace.create kind symbols = (Effect.creation made).run workspace := by
  unfold create
  cases Machine.create kind (some (symbols.map Label.ofChar)) with
  | error why => exact ⟨.error (.machine why), fun _ => rfl⟩
  | ok machine => exact ⟨.ok machine, fun _ => rfl⟩

/-- A command that needs a machine edits it, and any other one that is repeated starts anew. -/
theorem perform_eq_run {command : Command} (replayed : command.verb.isReplayed = true) :
    ∃ effect : Effect,
      (command.verb.needsMachine = true → effect.result none = .error .noMachine) ∧
        ∀ nested workspace, perform nested workspace command = effect.run workspace := by
  cases needed : command.verb.needsMachine with
  | true =>
    obtain ⟨change, atomic, performed⟩ := perform_eq_edit_of_needsMachine needed
    refine ⟨.edition fun machine => (change machine).made, fun _ => rfl, fun nested workspace => ?_⟩
    rw [performed, Effect.edit_eq_run atomic]
  | false =>
    cases command with
    | add | connect | accept | execute | displayAll | display => cases needed
    | help | exportFile | importFile | exit => cases replayed
    | create kind symbols =>
      obtain ⟨made, same⟩ := create_eq_run kind symbols
      exact ⟨.creation made, fun impossible => absurd impossible Bool.false_ne_true, fun _ => same⟩

/-- Every line that a replay repeats has an effect. -/
theorem hasEffect_of_isReplayable {line : Text} (replayed : isReplayable line = true) :
    ∃ effect, HasEffect line effect := by
  obtain ⟨verb, known, replayedVerb⟩ := (Option.any_eq_true _ _).1 replayed
  cases read : Command.read verb (keywordOf line).2 with
  | error why =>
    -- A verb that needs a machine asks for one before its arguments are looked at.
    cases needed : verb.needsMachine with
    | true =>
      refine ⟨.edition fun _ => .error (.malformed why), fun nested workspace => ?_⟩
      rw [Effect.run, Effect.edition]
      cases held : workspace.session.machine <;> simp [dispatch, known, needed, held, read]
    | false =>
      refine ⟨.creation (.error (.malformed why)), fun nested workspace => ?_⟩
      simp [dispatch, known, needed, read, Effect.run, Effect.creation, Except.map]
  | ok command =>
    have sameVerb := Command.verb_of_read read
    obtain ⟨effect, unmade, same⟩ := perform_eq_run (sameVerb ▸ replayedVerb)
    refine ⟨effect, fun nested workspace => ?_⟩
    by_cases missing : verb.needsMachine = true ∧ workspace.session.machine = none
    · simp [dispatch, known, missing, Effect.run, unmade (sameVerb ▸ missing.1)]
    · simp [dispatch, known, missing, read, same]

/-- A line with an effect is answered alike in all open sessions on the same machine. -/
theorem runLine_of_hasEffect {line : Text} {effect : Effect} (has : HasEffect (trim line) effect)
    (nested : Runner) {workspace : Workspace} (isOpen : workspace.session.closed = false) :
    match effect.result workspace.session.machine with
    | .error why =>
      ∃ left, workspace.runLine nested line = (.ok (.error why), left) ∧
        left.session = workspace.session.note false
    | .ok (machine, reply) =>
      ∃ left, workspace.runLine nested line = (.ok (.ok reply), left) ∧
        left.session = effect.after machine (trim line) workspace.session := by
  unfold runLine
  rw [if_neg (by simp [isOpen]), has, Effect.run, log_session]
  cases effect.result workspace.session.machine with
  | error why => exact ⟨_, rfl, rfl⟩
  | ok made => exact ⟨_, rfl, rfl⟩

end Workspace

end AutomataShell
