import AutomataShell.Proofs.Command.Rereading
import AutomataShell.Proofs.Session.Recording
import AutomataShell.Proofs.Session.Replay

/-! Lines that a replay repeats, run again as a script or with their tokens spaced anew. -/

set_option autoImplicit false

namespace AutomataShell

open Script Text

/-- Whether spacing the tokens of a line anew cannot change what it is read as. -/
def KeepsReading (line : Text) : Prop :=
  'Σ' ∈ line → respaced line = line

/-- A line that has run once does the same with its tokens spaced anew. -/
theorem hasEffect_respaced {line : Text} (isSpaced : IsSpaced line)
    (replayed : isReplayable line = true) (keeps : KeepsReading line) {effect : Effect}
    (has : HasEffect line effect) {nested : Runner} {workspace left : Workspace} {reply : Reply}
    (done : workspace.dispatch nested line = (.ok reply, left)) :
    HasEffect (respaced line) effect := by
  by_cases noSigma : 'Σ' ∈ line
  · rw [keeps noSigma]
    exact has
  · obtain ⟨clean, list, areWords, rfl⟩ := isSpaced
    rcases list with _ | ⟨word, arguments⟩
    · exact absurd rfl clean.nonempty
    · have isVerb : IsVerbWord word := by
        rwa [isReplayable, keywordOf, headWord_join areWords] at replayed
      have noneInArguments : 'Σ' ∉ join " " arguments := mt (mem_join_cons word) noSigma
      have wordsOfArguments := fun other member => areWords other (List.mem_cons_of_mem word member)
      have keyword : keywordOf (join " " (word :: arguments)) = (lower word, join " " arguments) := by
        rw [keywordOf, headWord_join areWords]
      have keywordAnew : keywordOf (respaced (join " " (word :: arguments))) =
          (lower word, respaced (join " " arguments)) := by
        rw [keywordOf, headWord_respaced isVerb.tokens_eq]
      obtain ⟨verb, known, replayedVerb⟩ := isVerb.ofKeyword_eq
      -- What succeeded was read, and its arguments are read alike from now on.
      have readable : ∃ command, Command.read verb (join " " arguments) = .ok command := by
        unfold Workspace.dispatch at done
        rw [keyword] at done
        simp only [known] at done
        split at done
        · cases done
        · split at done
          · cases done
          · rename_i command read
            exact ⟨command, read⟩
      obtain ⟨command, read⟩ := readable
      have readAnew := Command.read_respaced replayedVerb wordsOfArguments noneInArguments read
      intro other workspace
      rw [← has other workspace]
      unfold Workspace.dispatch
      rw [keyword, keywordAnew]
      simp only [known, read, readAnew]

namespace Workspace

variable {nested : Runner}

theorem replay_cons_of_hasEffect {line : Text} {effect : Effect} (has : HasEffect line effect)
    (trimmed : trim line = line) (rest : List Text) {workspace : Workspace}
    (isOpen : workspace.session.closed = false) :
    match effect.result workspace.session.machine with
    | .error _ => workspace.replay (line :: rest) = none
    | .ok (machine, _) =>
      ∃ left : Workspace, workspace.replay (line :: rest) = left.replay rest ∧
        left.session = effect.after machine line workspace.session := by
  rw [← trimmed] at has
  have answered := runLine_of_hasEffect has (runTo (workspace.importDepth 0)) isOpen
  cases made : effect.result workspace.session.machine with
  | error why =>
    rw [made] at answered
    obtain ⟨left, ran, _⟩ := answered
    simp only [replay, execute, ran]
  | ok pair =>
    rw [made] at answered
    obtain ⟨left, ran, same⟩ := answered
    rw [trimmed] at same
    exact ⟨left, by simp only [replay, execute, ran], same⟩

/-- A script of lines that a replay repeats succeeds when the replay does, with the same machine. -/
theorem runLines_of_replay {lines : List Text}
    (repeated : ∀ line ∈ lines, trim line = line ∧ isReplayable line = true)
    (index : Nat) {first second : Workspace} (firstOpen : first.session.closed = false)
    (secondOpen : second.session.closed = false)
    (sameMachine : second.session.machine = first.session.machine) :
    ∃ result left, second.runLines nested index lines = (.ok result, left) ∧
      (first.replay lines).map (fun final => final.session.machine) =
        if result.succeeded then some left.session.machine else none := by
  -- Both runs keep the machine in common, and stop at the same line if they stop.
  induction lines generalizing index first second with
  | nil => exact ⟨_, _, rfl, by simp [replay, BatchResult.succeeded, sameMachine, Session.note]⟩
  | cons line rest ih =>
    obtain ⟨trimmed, replayed⟩ := repeated line List.mem_cons_self
    obtain ⟨effect, has⟩ := hasEffect_of_isReplayable replayed
    have replays := replay_cons_of_hasEffect has trimmed rest firstOpen
    rw [← trimmed] at has
    have answered := runLine_of_hasEffect has nested secondOpen
    rw [trimmed, sameMachine] at answered
    cases made : effect.result first.session.machine with
    | error why =>
      rw [made] at replays answered
      obtain ⟨left, ran, _⟩ := answered
      refine ⟨⟨[], some ⟨some ⟨index, line⟩, why⟩⟩, left, ?_, ?_⟩
      · simp [runLines, secondOpen, ran]
      · simp only at replays
        rw [replays]
        rfl
    | ok pair =>
      rw [made] at replays answered
      obtain ⟨left, ran, same⟩ := answered
      obtain ⟨other, replaysRest, sameOther⟩ := replays
      rw [Effect.after_eq _ _ _ secondOpen] at same
      rw [Effect.after_eq _ _ _ firstOpen] at sameOther
      obtain ⟨result, final, ranRest, sameFinal⟩ :=
        ih (fun next member => repeated next (List.mem_cons_of_mem line member)) (index + 1)
          (by rw [sameOther]) (by rw [same]) (by rw [same, sameOther])
      refine ⟨{ result with replies := pair.2 :: result.replies }, final, ?_, ?_⟩
      · simp [runLines, secondOpen, ran, ranRest]
      · rw [replaysRest, sameFinal]
        rfl

theorem replay_respaced {lines : List Text}
    (repeated : ∀ line ∈ lines, IsSpaced line ∧ isReplayable line = true ∧ KeepsReading line)
    {first second final : Workspace} (firstOpen : first.session.closed = false)
    (secondOpen : second.session.closed = false)
    (sameMachine : second.session.machine = first.session.machine)
    (ran : first.replay lines = some final) :
    ∃ other, second.replay (lines.map respaced) = some other ∧
      other.session.machine = final.session.machine := by
  induction lines generalizing first second with
  | nil =>
    cases ran
    exact ⟨second, rfl, sameMachine⟩
  | cons line rest ih =>
    obtain ⟨isSpaced, replayed, keeps⟩ := repeated line List.mem_cons_self
    obtain ⟨effect, has⟩ := hasEffect_of_isReplayable replayed
    have replays := replay_cons_of_hasEffect has isSpaced.clean.trimmed rest firstOpen
    cases made : effect.result first.session.machine with
    | error why =>
      rw [made] at replays
      simp only at replays
      rw [replays] at ran
      cases ran
    | ok pair =>
      rw [made] at replays
      obtain ⟨left, replaysRest, same⟩ := replays
      -- The line succeeded, so it does the same with its tokens spaced anew.
      have done := has (runTo 0) first
      rw [Effect.run, made] at done
      have replaysAnew := replay_cons_of_hasEffect (hasEffect_respaced isSpaced replayed keeps has done)
        (trim_respaced line) (rest.map respaced) secondOpen
      rw [sameMachine, made] at replaysAnew
      obtain ⟨other, replaysOther, sameOther⟩ := replaysAnew
      rw [Effect.after_eq _ _ _ firstOpen] at same
      rw [Effect.after_eq _ _ _ secondOpen] at sameOther
      rw [List.map_cons, replaysOther]
      exact ih (fun next member => repeated next (List.mem_cons_of_mem line member))
        (by rw [same]) (by rw [sameOther]) (by rw [same, sameOther]) (replaysRest ▸ ran)

end Workspace

end AutomataShell
