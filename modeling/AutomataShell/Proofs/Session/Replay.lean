import AutomataShell.Proofs.Session.Effect
import AutomataShell.Proofs.Session.Operation
import AutomataShell.Proofs.Text.Words

/-! The record of a session rebuilds its machine. However the session came about, its exportable
lines run one by one in a fresh session, and leave the same machine and the same exportable lines. -/

set_option autoImplicit false

namespace AutomataShell

open Text

namespace Workspace

/-- Runs lines one by one as long as each succeeds. -/
def replay : List Text → Workspace → Option Workspace
  | [], workspace => some workspace
  | line :: rest, workspace =>
    match workspace.execute line with
    | (.ok (.ok _), left) => replay rest left
    | _ => none

theorem replay_append (first second : List Text) (workspace : Workspace) :
    workspace.replay (first ++ second) = (workspace.replay first).bind (replay second) := by
  induction first generalizing workspace with
  | nil => rfl
  | cons line rest ih =>
    simp only [List.cons_append, replay]
    split
    · exact ih _
    · rfl

end Workspace

namespace Session

/-- What a replay restores of a session. -/
def restored (session : Session) : Session :=
  ⟨session.machine, session.exportable, false, [], true⟩

structure IsReplayable (session : Session) : Prop where
  restores : ∀ disk, ∃ final, (Workspace.start disk).replay session.exportable = some final ∧
    final.session = session.restored
  machine_eq_none_iff : session.machine = none ↔ session.exportable = []

namespace IsReplayable

variable {session : Session}

theorem of_no_machine (machineless : session.machine = none) (unrecorded : session.record = []) :
    session.IsReplayable where
  restores disk := by
    refine ⟨.start disk, ?_, ?_⟩ <;>
      simp [exportable, unrecorded, restored, machineless, Workspace.replay, Workspace.start, fresh]
  machine_eq_none_iff := by simp [machineless, exportable, unrecorded]

theorem congr {other : Session} (replayable : session.IsReplayable)
    (sameMachine : other.machine = session.machine)
    (sameLines : other.exportable = session.exportable) : other.IsReplayable where
  restores disk := by
    simpa [restored, sameMachine, sameLines] using replayable.restores disk
  machine_eq_none_iff := by
    simpa [sameMachine, sameLines] using replayable.machine_eq_none_iff

/-- One more line runs after the lines before it, on the machine on which it ran at first. -/
theorem after {line : Text} {effect : Effect} {machine : Machine} {reply : Reply}
    (replayable : session.IsReplayable) (isOpen : session.closed = false)
    (trimmed : trim line = line) (replayed : isReplayable line = true)
    (has : HasEffect line effect) (made : effect.result session.machine = .ok (machine, reply)) :
    (effect.after machine line session).IsReplayable := by
  have exported : (effect.after machine line session).exportable =
      effect.recordBefore session.exportable ++ [line] := by
    rw [effect.after_eq _ _ isOpen, exportable, Effect.recordBefore, Effect.recordBefore]
    split <;> simp [exportable, replayed]
  -- What the line runs on: nothing when it starts anew, else the rebuilt session.
  have before : ∀ disk, ∃ workspace,
      (Workspace.start disk).replay (effect.recordBefore session.exportable) = some workspace ∧
        effect.result workspace.session.machine = .ok (machine, reply) ∧
        workspace.session.closed = false ∧ workspace.session.importing = [] ∧
        effect.recordBefore workspace.session.record =
          effect.recordBefore session.exportable := by
    intro disk
    cases startsAnew : effect.startsAnew with
    | true =>
      rw [effect.anew startsAnew] at made
      exact ⟨.start disk, by simp [Effect.recordBefore, startsAnew, Workspace.replay], made, rfl,
        rfl, by simp [Effect.recordBefore, startsAnew]⟩
    | false =>
      obtain ⟨final, ran, restored⟩ := replayable.restores disk
      refine ⟨final, by simpa [Effect.recordBefore, startsAnew] using ran, ?_, ?_, ?_, ?_⟩ <;>
        rw [restored]
      · exact made
      · rfl
      · rfl
      · rfl
  constructor
  · -- In the rebuilt session the line is answered as it was at first.
    intro disk
    obtain ⟨workspace, ran, result, stillOpen, idle, sameRecord⟩ := before disk
    have hasTrimmed : HasEffect (trim line) effect := trimmed.symm ▸ has
    have answered := Workspace.runLine_of_hasEffect hasTrimmed
      (Workspace.runTo (workspace.importDepth 0)) stillOpen
    rw [result, trimmed] at answered
    obtain ⟨left, executed, leftSession⟩ := answered
    refine ⟨left, ?_, ?_⟩
    · rw [exported, Workspace.replay_append, ran]
      simp only [Option.bind_some, Workspace.replay, Workspace.execute, executed]
    · rw [leftSession, restored, exported, effect.after_eq _ _ stillOpen, idle, sameRecord,
        effect.after_eq _ _ isOpen]
  · rw [exported, effect.after_eq _ _ isOpen]
    simp

theorem change {allowed : Text → Prop} {next : Session} (replayable : session.IsReplayable)
    (step : Session.Change allowed session next) : next.IsReplayable := by
  -- The steps that touch the machine wipe the record with it, or record the line that explains it.
  cases step with
  | noted | importBegun | importEnded => exact replayable.congr rfl rfl
  | emptied | closed => exact of_no_machine rfl rfl
  | recorded permitted plain =>
    refine replayable.congr ?_ ?_
    · unfold remember
      split <;> rfl
    · cases isClosed : session.closed with
      | true => rw [remember_of_closed _ _ isClosed]
      | false => rw [exportable_remember _ _ isClosed, plain]; simp
  | rebuilt isOpen _ replayed has made =>
    exact replayable.after isOpen (trim_trim _) replayed has made

theorem changes {allowed : Text → Prop} {next : Session} (replayable : session.IsReplayable)
    (steps : Relation.ReflTransGen (Session.Change allowed) session next) : next.IsReplayable := by
  induction steps with
  | refl => exact replayable
  | tail _ step ih => exact ih.change step

end IsReplayable

end Session

theorem Workspace.isReplayable_operateAll (operations : List Operation) (disk : Disk) :
    ((start disk).operateAll operations).session.IsReplayable := by
  have steps : Relation.ReflTransGen (Session.Change fun _ => True) (start disk).session
      ((start disk).operateAll operations).session :=
    operateAll_changes (by simp) (by simp) _
  exact (Session.IsReplayable.of_no_machine rfl rfl).changes steps

/-- After any operations, the exportable lines rebuild the machine in a fresh session, whatever files
there are by then, and become its exportable lines. There are none exactly without a machine. -/
theorem Workspace.replay_exportable (operations : List Operation) (disk files : Disk) :
    let session := ((start disk).operateAll operations).session
    (∃ final, (start files).replay session.exportable = some final ∧
      final.session.machine = session.machine ∧
      final.session.exportable = session.exportable) ∧
    (session.machine = none ↔ session.exportable = []) := by
  intro session
  have replayable := isReplayable_operateAll operations disk
  obtain ⟨final, ran, restored⟩ := replayable.restores files
  refine ⟨⟨final, ran, ?_, ?_⟩, replayable.machine_eq_none_iff⟩
  · rw [restored, Session.restored]
  · rw [restored]
    -- Of lines that are all exportable, all are exported again.
    simp [Session.restored, Session.exportable, session]

end AutomataShell
