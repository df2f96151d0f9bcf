import Mathlib.Logic.Relation
import AutomataShell.Proofs.Disk.Writing
import AutomataShell.Proofs.Session.Effect
import AutomataShell.Session.Execute

/-! What a run does to its workspace. Every run, whatever it imports and however it ends, is a sequence
of a few kinds of changes, so what each change keeps is kept by all runs. -/

set_option autoImplicit false

namespace AutomataShell

open Text

/-- One change of a session. A line that a replay repeats is recorded together with what it does to
the machine. -/
inductive Session.Change (allowed : Text → Prop) : Session → Session → Prop where
  | noted (session : Session) (successful : Bool) :
      Change allowed session (session.note successful)
  | emptied (session : Session) : Change allowed session session.reset
  | closed (session : Session) : Change allowed session session.close
  | importBegun (session : Session) (place : Place) :
      Change allowed session (session.beginImport place)
  | importEnded (session : Session) : Change allowed session session.endImport
  | recorded (session : Session) {line : Text} (permitted : allowed (trim line))
      (plain : isReplayable (trim line) = false) :
      Change allowed session (session.remember (trim line))
  | rebuilt (session : Session) {line : Text} {effect : Effect} {machine : Machine} {reply : Reply}
      (isOpen : session.closed = false) (permitted : allowed (trim line))
      (replayed : isReplayable (trim line) = true) (has : HasEffect (trim line) effect)
      (made : effect.result session.machine = .ok (machine, reply)) :
      Change allowed session (effect.after machine (trim line) session)

/-- One change of a workspace. The journal may grow with any of them. What is written to a file are
the lines that rebuild the machine. -/
inductive Workspace.Change (allowed : Text → Prop) (before after : Workspace) : Prop where
  | told (sameSession : after.session = before.session) (sameDisk : after.disk = before.disk)
  | worked (step : Session.Change allowed before.session after.session)
      (sameDisk : after.disk = before.disk)
  | wrote {path : Text} (sameSession : after.session = before.session)
      (written : before.disk.writeText path (Script.written before.session.exportable) =
        .ok after.disk)

abbrev Workspace.Changes (allowed : Text → Prop) : Workspace → Workspace → Prop :=
  Relation.ReflTransGen (Workspace.Change allowed)

/-- A runner that changes workspaces in these ways only. -/
def Runner.IsRegular (allowed : Text → Prop) (nested : Runner) : Prop :=
  ∀ script workspace, Workspace.Changes allowed workspace (nested script workspace).2

namespace Workspace

variable {allowed : Text → Prop} {nested : Runner}

theorem exportFile_changes (path : Text) (workspace : Workspace) :
    Changes allowed workspace (workspace.exportFile path).2 := by
  unfold exportFile
  split
  · exact .refl
  · simp only
    split
    · exact .refl
    · rename_i written
      exact .single (.wrote rfl written)

/-- A command that only looks at the machine does not change the session. -/
theorem edit_reading_changes {α : Type} (found : Machine → Except MachineError α)
    (reply : α → Reply) (workspace : Workspace) :
    Changes allowed workspace
      (workspace.edit fun machine => machine.reading (found machine) reply).2 := by
  unfold edit
  split
  · exact .refl
  · rename_i machine held
    refine .single (.told ?_ rfl)
    simp only [Machine.reading, update_session, Session.replaceMachine, ← held]

theorem runImported_changes (regular : nested.IsRegular allowed) (path : Text) (place : Place)
    (script : Text) (workspace : Workspace) :
    Changes allowed workspace (workspace.runImported nested path place script).2 := by
  unfold runImported
  simp only
  -- The session is emptied before the script of the file runs, and does not come back.
  have emptied : Change allowed workspace (workspace.update Session.reset) :=
    .worked (.emptied _) rfl
  have begun : Change allowed (workspace.update Session.reset)
      ((workspace.log (.importing place)).update fun session =>
        session.reset.beginImport place) :=
    .worked (.importBegun _ place) rfl
  have ran := ((Relation.ReflTransGen.single emptied).tail begun).trans (regular script _)
  split
  · rename_i left same
    rw [same] at ran
    exact ran.tail (.worked (.importEnded _) rfl)
  · rename_i left same
    rw [same] at ran
    split <;> exact ran.tail (.worked (.importEnded _) rfl)

theorem importFile_changes (regular : nested.IsRegular allowed) (path : Text)
    (workspace : Workspace) : Changes allowed workspace (workspace.importFile nested path).2 := by
  unfold importFile
  split
  · exact .refl
  · split
    · exact .refl
    · split
      · exact .refl
      · exact runImported_changes regular path _ _ workspace

/-- A command that no replay repeats. -/
theorem perform_changes (regular : nested.IsRegular allowed) {command : Command}
    (plain : command.verb.isReplayed = false) (workspace : Workspace) :
    Changes allowed workspace (workspace.perform nested command).2 := by
  cases command with
  | create | add | connect | accept | execute => cases plain
  | exit => exact .single (.worked (.closed _) rfl)
  | help => exact .refl
  | displayAll => exact edit_reading_changes _ _ workspace
  | display names => exact edit_reading_changes _ _ workspace
  | exportFile path =>
    have changes : Changes allowed workspace (workspace.exportFile path).2 :=
      exportFile_changes path workspace
    simp only [perform]
    split <;> simp_all
  | importFile path =>
    have changes := importFile_changes regular path workspace
    simp only [perform]
    split <;> simp_all

/-- A line that was dispatched, before it is recorded. -/
theorem dispatch_changes (regular : nested.IsRegular allowed) {line : Text}
    (plain : isReplayable line = false) (workspace : Workspace) :
    Changes allowed workspace (workspace.dispatch nested line).2 := by
  unfold dispatch
  simp only
  split
  · exact .refl
  · rename_i verb known
    split
    · exact .refl
    · split
      · exact .refl
      · rename_i command read
        refine perform_changes regular ?_ workspace
        rw [Command.verb_of_read read]
        simpa [isReplayable, known] using plain

theorem runLine_changes (regular : nested.IsRegular allowed) {line : Text}
    (permitted : allowed (trim line)) (workspace : Workspace) :
    Changes allowed workspace (workspace.runLine nested line).2 := by
  unfold runLine
  split
  · exact .refl
  · rename_i isOpen
    have told : Change allowed workspace (workspace.log (.dispatched (trim line))) := .told rfl rfl
    cases replayed : isReplayable (trim line) with
    | true =>
      obtain ⟨effect, has⟩ := hasEffect_of_isReplayable replayed
      rw [has, Effect.run]
      cases made : effect.result (workspace.log (.dispatched (trim line))).session.machine with
      | error why => exact .single (.worked (.noted _ false) rfl)
      | ok pair =>
        exact .single (.worked (.rebuilt _ (by simpa using isOpen) permitted replayed has made) rfl)
    | false =>
      -- Recorded or not, such a line changes nothing that a replay repeats.
      have ran := (Relation.ReflTransGen.single told).trans
        (dispatch_changes regular replayed (workspace.log (.dispatched (trim line))))
      split
      · rename_i reply left done
        rw [done] at ran
        have recorded : Change allowed left
            (left.update fun session => session.remember (trim line)) :=
          .worked (.recorded _ permitted replayed) rfl
        exact (ran.tail recorded).tail (.worked (.noted _ true) rfl)
      · rename_i why left failed
        rw [failed] at ran
        exact ran.tail (.worked (.noted _ false) rfl)
      · rename_i why left failed
        rw [failed] at ran
        exact ran

theorem runLines_changes (regular : nested.IsRegular allowed) {lines : List Text}
    (permitted : ∀ line ∈ lines, allowed (trim line)) (index : Nat) (workspace : Workspace) :
    Changes allowed workspace (workspace.runLines nested index lines).2 := by
  apply runLines_keeps (P := Changes allowed workspace)
  · exact fun reached successful changes => changes.tail (.worked (.noted _ successful) rfl)
  · exact fun line member reached changes =>
      changes.trans (runLine_changes regular (permitted line member) reached)
  · exact .refl

/-- A script changes its workspace regularly when its commands are allowed. -/
theorem runScript_changes (regular : nested.IsRegular allowed)
    (permitted : ∀ script commands, Script.expand script = .ok commands →
      ∀ line ∈ Script.splitCommands (Script.written commands), allowed (trim line))
    (script : Text) (workspace : Workspace) :
    Changes allowed workspace (workspace.runScript nested script).2 := by
  unfold runScript
  split
  · exact .refl
  · split
    · exact .single (.worked (.noted _ false) rfl)
    · simp only
      split
      · exact .single (.worked (.noted _ false) rfl)
      · rename_i sound
        have told : Change allowed workspace (workspace.logAll
            ((Script.expansion script).1.definitionsInOrder.map definitionEvent)) := .told rfl rfl
        refine (Relation.ReflTransGen.single told).trans (runLines_changes regular ?_ 1 _)
        apply permitted script
        rw [Script.expand]
        generalize Script.expansion script = outcome at sound ⊢
        obtain ⟨state, fault⟩ := outcome
        simp only at sound
        subst sound
        rfl

theorem runTo_isRegular
    (permitted : ∀ script commands, Script.expand script = .ok commands →
      ∀ line ∈ Script.splitCommands (Script.written commands), allowed (trim line)) (depth : Nat) :
    (runTo depth).IsRegular allowed := by
  -- A run at one depth hands its imports to the runs below.
  induction depth with
  | zero => exact fun _ _ => .refl
  | succ depth ih => exact runScript_changes ih permitted

/-- What happens to the session alone. -/
theorem Changes.session {before after : Workspace} (changes : Changes allowed before after) :
    Relation.ReflTransGen (Session.Change allowed) before.session after.session := by
  induction changes with
  | refl => exact .refl
  | tail _ step ih =>
    cases step with
    | told sameSession _ => exact sameSession ▸ ih
    | worked step _ => exact ih.tail step
    | wrote sameSession _ => exact sameSession ▸ ih

/-- Runs write files only where no directory is, so the working directory stays. -/
theorem Changes.isProper {before after : Workspace} (changes : Changes allowed before after)
    (proper : before.disk.IsProper) : after.disk.IsProper := by
  induction changes with
  | refl => exact proper
  | tail _ step ih =>
    cases step with
    | told _ sameDisk => exact sameDisk ▸ ih
    | worked _ sameDisk => exact sameDisk ▸ ih
    | wrote _ written =>
      obtain ⟨_, place, _, other, same⟩ := Disk.eq_put_of_writeText written
      exact same ▸ ih.put other

end Workspace

end AutomataShell
