import AutomataShell.Proofs.Script.Meaning
import AutomataShell.Proofs.Script.Survival
import AutomataShell.Proofs.Session.Operation

/-! The record of a session that only scripts have worked on. The lines in it that a replay repeats
are words with single spaces between them, because scripts are expanded token by token. -/

set_option autoImplicit false

namespace AutomataShell

open Script Text

/-- A line as an expansion leaves it, unless it names a file. -/
structure IsSpaced (line : Text) : Prop where
  clean : IsClean line
  spaced : ∃ list, (∀ word ∈ list, IsWord word) ∧ line = join " " list

/-- What a replay repeats of a script is no line that names a file. -/
theorem spaced_entry {before : List Text} {line : Text}
    (replayed : isReplayable (entry before line) = true) :
    ∃ list, (∀ word ∈ list, IsWord word) ∧ entry before line = join " " list := by
  -- A line that names a file starts with the keyword of an import or export.
  have noReplay (keyword : Text) (takesPath : lower keyword = "import" ∨ lower keyword = "export")
      {rest : Text} (isTail : IsTail rest) : isReplayable (keyword ++ rest) = false := by
    rw [isReplayable, keywordOf, headWord_append (isWord_of_takesPath takesPath) isTail]
    rcases takesPath with same | same <;> rw [same] <;> rfl
  rcases entry_cases before line with ⟨keyword, rest, _, takesPath, _, same⟩ | same
  · rw [same] at replayed
    split at replayed
    · have plain := noReplay keyword takesPath (Or.inl rfl)
      rw [List.append_nil, replayed] at plain
      cases plain
    · have plain := noReplay keyword takesPath (Or.inr ⟨trim rest, rfl⟩)
      rw [List.append_assoc] at replayed
      exact absurd (replayed.symm.trans plain) (by decide)
  · refine ⟨_, fun word member => ?_, same⟩
    obtain ⟨token, inTokens, rfl⟩ := List.mem_map.1 member
    -- Tokens and their replacements are words alike.
    rcases standIn_eq_or_mem before token with same | ⟨earlier, _, inWords⟩
    · rw [same]
      exact isWord_of_mem_tokens inTokens
    · exact isWord_of_mem_words inWords

theorem isSpaced_of_expand {script : Text} {commands : List Text}
    (expanded : expand script = .ok commands) {line : Text}
    (member : line ∈ splitCommands (written commands)) (replayed : isReplayable (trim line) = true) :
    IsSpaced (trim line) := by
  have isEntries := expand_eq_entries expanded
  have cleanLines : ∀ other ∈ logicalLines script, IsClean other := fun _ => isClean_logicalLines
  have clean : ∀ command ∈ commands, IsClean command := fun command inCommands =>
    isClean_of_mem_entries cleanLines (isEntries ▸ inCommands)
  rw [splitCommands_written clean] at member
  rw [(clean line member).trimmed] at replayed ⊢
  refine ⟨clean line member, ?_⟩
  rw [isEntries] at member
  obtain ⟨place, _, rfl⟩ := List.mem_map.1 member
  exact spaced_entry replayed

theorem IsSpaced.isStorable {line : Text} (isSpaced : IsSpaced line)
    (replayed : isReplayable line = true) : IsStorable line := by
  obtain ⟨clean, list, areWords, rfl⟩ := isSpaced
  rcases list with _ | ⟨word, rest⟩
  · exact absurd rfl clean.nonempty
  · rw [isReplayable, keywordOf, headWord_join areWords] at replayed
    rw [join_cons] at clean ⊢
    refine ⟨word, _, rfl, replayed, ?_, fun member => ?_⟩
    · split
      · exact Or.inl rfl
      · exact Or.inr ⟨_, rfl⟩
    · exact (clean.unbroken ';' (List.mem_append_right word member)).1 rfl

theorem Session.Change.record {allowed : Text → Prop} {session next : Session}
    (step : Session.Change allowed session next) (recorded : ∀ line ∈ session.record, allowed line) :
    ∀ line ∈ next.record, allowed line := by
  cases step with
  | noted | importBegun | importEnded => exact recorded
  | emptied | closed => exact fun line member => by cases member
  | recorded permitted plain =>
    intro line member
    unfold remember at member
    split at member
    · exact recorded line member
    · rcases List.mem_append.1 member with inRecord | isNew
      · exact recorded line inRecord
      · exact List.mem_singleton.1 isNew ▸ permitted
  | rebuilt isOpen permitted replayed has made =>
    intro line member
    rw [Effect.after_eq _ _ _ isOpen] at member
    rcases List.mem_append.1 member with inRecord | isNew
    · unfold Effect.recordBefore at inRecord
      split at inRecord
      · cases inRecord
      · exact recorded line inRecord
    · exact List.mem_singleton.1 isNew ▸ permitted

theorem Session.allowed_of_changes {allowed : Text → Prop} {session next : Session}
    (steps : Relation.ReflTransGen (Session.Change allowed) session next)
    (recorded : ∀ line ∈ session.record, allowed line) : ∀ line ∈ next.record, allowed line := by
  induction steps with
  | refl => exact recorded
  | tail _ step ih => exact step.record ih

/-- The lines that rebuild the machine of a session without lines of its own. -/
theorem isSpaced_of_mem_exportable {operations : List Operation}
    (scripted : ∀ operation ∈ operations, operation.lines = []) (disk : Disk) {line : Text}
    (member : line ∈ ((Workspace.start disk).operateAll operations).session.exportable) :
    IsSpaced line := by
  have changes : Relation.ReflTransGen
      (Session.Change fun line => isReplayable line = true → IsSpaced line)
      (Workspace.start disk).session ((Workspace.start disk).operateAll operations).session := by
    refine Workspace.operateAll_changes (fun _ _ expanded _ => isSpaced_of_expand expanded) ?_ _
    intro operation inOperations line given
    rw [scripted operation inOperations] at given
    cases given
  obtain ⟨inRecord, replayed⟩ := List.mem_filter.1 member
  have recorded := Session.allowed_of_changes changes fun line inNone => by cases inNone
  exact recorded line inRecord replayed

end AutomataShell
