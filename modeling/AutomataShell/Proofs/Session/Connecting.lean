import AutomataShell.Proofs.Machine.Arrows
import AutomataShell.Proofs.Script.Connecting
import AutomataShell.Proofs.Session.Holding
import AutomataShell.Proofs.Session.Joining
import AutomataShell.Proofs.Session.Layers

/-! Connections entered as a line and as a script. A script changes the blanks of the line, and so both
draw the same arrows. -/

set_option autoImplicit false

namespace AutomataShell

open Script Text

namespace Script

/-- A line with the word of a verb is all that a script of that line comes down to, spaced anew. -/
theorem commandsOf_of_isStorable {line : Text} (storable : IsStorable (trim line))
    (free : ';' ∉ line) (uncommented : ¬ ['/', '*'] <:+: line)
    (unbroken : breaksAsSpaces line = line) :
    IsStraight line ∧ commandsOf line = [respaced (trim line)] := by
  have alone : logicalLines line = [trim line] := by
    have kept : trim line ≠ [] := by
      intro none
      obtain ⟨verb, known, _⟩ := storable.keywordOf_eq
      rw [none] at known
      cases known
    rw [logicalLines_of_uncommented uncommented, unbroken, statements, pieces_of_notMem free]
    simp [kept]
  have straight : IsStraight line := by
    refine ⟨uncommented, fun other member => ?_⟩
    rw [alone, List.mem_singleton] at member
    rw [member]
    exact storable.directiveOf_eq_none
  have sameCommand : Expansion.command [] (trim line) = entry [] (trim line) :=
    command_eq_entry (fun _ => rfl) _
  rw [storable.command_eq] at sameCommand
  refine ⟨straight, ?_⟩
  rw [Workspace.commandsOf_of_isStraight straight, alone, List.map_singleton, sameCommand]

end Script

namespace Workspace

variable {workspace : Workspace} {machine : Machine} {source : Char}

/-- The session after arrows were drawn by a line. -/
def drawnBy (workspace : Workspace) (machine : Machine) (line : Text) : Session :=
  { workspace.session with
    machine := some machine
    record := workspace.session.record ++ [line]
    successful := true }

/-- However it was entered, a line that is read as arrows from a source draws them, if they fit. -/
theorem runLine_of_readConnect (nested : Runner) {line arguments : Text} {pairs : List (Char × Char)}
    (isOpen : workspace.session.closed = false)
    (held : workspace.session.machine = some machine) (lawful : machine.IsLawful)
    (solid : isBlank source = false) (nonempty : pairs ≠ [])
    (keyword : keywordOf (trim line) = (Verb.name .connect, arguments))
    (read : Command.readConnect arguments =
      (Command.readName [source]).map fun name => .connect name pairs) :
    (machine.Fits source pairs ∧ ∃ reply left,
      workspace.runLine nested line = (.ok (.ok reply), left) ∧
        left.session = workspace.drawnBy (machine.drawAll source pairs) (trim line)) ∨
    ¬ machine.Fits source pairs ∧ ∃ why left,
      workspace.runLine nested line = (.ok (.error why), left) := by
  have known : Verb.ofKeyword (keywordOf (trim line)).1 = some .connect := by
    rw [keyword]
    exact Verb.ofKeyword_name .connect
  rcases Command.readName_cases solid with named | ⟨⟨why, unnamed⟩, illegal⟩
  · have command : Command.read .connect (keywordOf (trim line)).2 = .ok (.connect source pairs) := by
      rw [keyword, Command.read, read, named]
      rfl
    have drawn {last : Machine} :
        machine.attemptAll (Command.connect source pairs).steps = .ok last ↔
          machine.Fits source pairs ∧ last = machine.drawAll source pairs :=
      lawful.attemptAll_arrows_eq_ok_iff source nonempty
    rcases runLine_cases_of_extends nested isOpen held known rfl command with
      ⟨next, reply, left, all, ran, session⟩ | ⟨why, left, none, ran⟩
    · obtain ⟨fits, rfl⟩ := drawn.1 all
      exact .inl ⟨fits, reply, left, ran, session⟩
    · exact .inr ⟨fun fits => none _ (drawn.2 ⟨fits, rfl⟩), why, left, ran⟩
  · -- Such a character names no node.
    refine .inr ⟨fun fits => illegal (lawful.legal source fits.1), .malformed why, ?_⟩
    have refused : Command.read .connect arguments = .error why := by
      rw [Command.read, read, unnamed]
      rfl
    rw [keyword] at known
    rw [runLine, if_neg (by simp [isOpen])]
    simp [dispatch, keyword, known, refused, held, Verb.needsMachine]

section

variable {arrows : List SpelledArrow}

theorem keywordOf_connectLine (legible : Text.IsLegible source) (nonempty : arrows ≠ [])
    (legibleArrows : ∀ arrow ∈ arrows, arrow.IsLegible) (delimiter : Delimiter) :
    ∃ rest, squeeze rest = squeeze (join [','] (arrows.map SpelledArrow.shown)) ∧
      keywordOf (trim (connectLine source delimiter arrows)) =
        (Verb.name .connect, source :: (delimiter.shown ++ rest)) ∧
      keywordOf (trim (respaced (trim (connectLine source delimiter arrows)))) =
        (Verb.name .connect, respaced (source :: (delimiter.shown ++ rest))) := by
  have isWord := isVerbWord_connect.isWord
  have ended := trimEnd_connection (source :: delimiter.shown) nonempty legibleArrows
  have trimmed : trim (source :: (delimiter.shown ++
        trimEnd (join [','] (arrows.map SpelledArrow.shown)))) =
      source :: (delimiter.shown ++ trimEnd (join [','] (arrows.map SpelledArrow.shown))) := by
    rw [trim, List.dropWhile_cons_of_neg (by simp [legible.solid]), ← List.cons_append, ← ended,
      trimEnd_idem]
  have lowered : lower (Verb.name .connect) = Verb.name .connect := by decide
  refine ⟨_, squeeze_trimEnd _, ?_, ?_⟩
  · rw [trim_connectLine nonempty legibleArrows, keywordOf, headWord_append isWord (.inr ⟨_, rfl⟩),
      lowered, trim_cons_of_isBlank isBlank_space, trimmed]
  · have spacedAnew : respaced (trim (connectLine source delimiter arrows)) =
        join " " (Verb.name .connect :: tokens (source :: (delimiter.shown ++
          trimEnd (join [','] (arrows.map SpelledArrow.shown))))) := by
      rw [trim_connectLine nonempty legibleArrows, respaced,
        IsStorable.tokens_eq isVerbWord_connect (.inr ⟨_, rfl⟩),
        tokens_cons_of_isBlank isBlank_space]
    rw [trim_respaced, spacedAnew, keywordOf, headWord_join, lowered]
    · rfl
    · intro other member
      rcases List.mem_cons.1 member with rfl | inTokens
      · exact isWord
      · exact isWord_of_mem_tokens inTokens

theorem commandsOf_connectLine (legible : Text.IsLegible source) (nonempty : arrows ≠ [])
    (legibleArrows : ∀ arrow ∈ arrows, arrow.IsLegible) (delimiter : Delimiter) :
    IsStraight (connectLine source delimiter arrows) ∧
      commandsOf (connectLine source delimiter arrows) =
        [respaced (trim (connectLine source delimiter arrows))] := by
  have unbroken {c : Char} (member : c ∈ connectLine source delimiter arrows) :=
    unbroken_connectLine legible legibleArrows member
  have free : ';' ∉ connectLine source delimiter arrows := fun member => (unbroken member).1 rfl
  apply commandsOf_of_isStorable
  · rw [trim_connectLine nonempty legibleArrows]
    refine ⟨_, _, rfl, isVerbWord_connect, .inr ⟨_, rfl⟩, fun member => free ?_⟩
    apply mem_of_mem_trim
    rw [trim_connectLine nonempty legibleArrows]
    exact List.mem_append_right _ member
  · exact free
  · exact uncommented_connectLine source delimiter arrows
  · apply map_of_unbroken
    intro c member
    obtain ⟨_, noReturn, noFeed, noTab⟩ := unbroken member
    simp [noReturn, noFeed, noTab]

theorem executeScript_connectLine (isOpen : workspace.session.closed = false)
    (legible : Text.IsLegible source) (nonempty : arrows ≠ [])
    (legibleArrows : ∀ arrow ∈ arrows, arrow.IsLegible) (delimiter : Delimiter) :
    ∃ depth, workspace.executeScript (connectLine source delimiter arrows) =
      workspace.runLines (runTo depth) 1 [respaced (trim (connectLine source delimiter arrows))] := by
  obtain ⟨straight, commands⟩ := commandsOf_connectLine legible nonempty legibleArrows delimiter
  have isText : (connectLine source delimiter arrows).all isBlank = false := by
    rw [← Bool.not_eq_true, ← trim_eq_nil_iff, trim_connectLine nonempty legibleArrows]
    exact List.cons_ne_nil _ _
  refine ⟨workspace.importDepth (connectLine source delimiter arrows).length, ?_⟩
  rw [executeScript, runScript_of_isStraight isOpen isText straight, commands]

/-- The line and its script draw the same arrows, or both are refused. -/
theorem connectLine_cases (isOpen : workspace.session.closed = false)
    (held : workspace.session.machine = some machine) (lawful : machine.IsLawful)
    (legible : Text.IsLegible source) (nonempty : arrows ≠ [])
    (legibleArrows : ∀ arrow ∈ arrows, arrow.IsLegible) (delimiter : Delimiter) :
    let line := connectLine source delimiter arrows
    let pairs := arrows.map SpelledArrow.pair
    (machine.Fits source pairs ∧ ∃ reply replyToo left leftToo,
      workspace.execute line = (.ok (.ok reply), left) ∧
        left.session = workspace.drawnBy (machine.drawAll source pairs) (trim line) ∧
        workspace.executeScript line = (.ok ⟨[replyToo], none⟩, leftToo) ∧
        leftToo.session =
          workspace.drawnBy (machine.drawAll source pairs) (respaced (trim line))) ∨
    ¬ machine.Fits source pairs ∧
      (∃ why, (workspace.execute line).1 = .ok (.error why)) ∧
        ∃ failure, (workspace.executeScript line).1 = .ok ⟨[], some failure⟩ := by
  intro line pairs
  have somePairs : pairs ≠ [] := by simpa [pairs] using nonempty
  obtain ⟨rest, same, byLine, byScript⟩ :=
    keywordOf_connectLine legible nonempty legibleArrows delimiter
  obtain ⟨read, readAnew⟩ :=
    Command.readConnect_spelled legible nonempty legibleArrows delimiter same
  obtain ⟨depth, ranScript⟩ :=
    executeScript_connectLine isOpen legible nonempty legibleArrows delimiter
  have ranLine := runLine_of_readConnect (runTo (workspace.importDepth 0)) isOpen held lawful
    legible.solid somePairs byLine read
  have ranCommand := runLine_of_readConnect (runTo depth) isOpen held lawful legible.solid
    somePairs byScript readAnew
  rw [trim_respaced] at ranCommand
  rcases ranLine with ⟨fits, reply, left, ran, session⟩ | ⟨unfit, why, left, ran⟩
  · rcases ranCommand with ⟨_, replyToo, leftToo, ranToo, sessionToo⟩ | ⟨unfit, _⟩
    · refine .inl ⟨fits, reply, replyToo, left, leftToo.update fun session => session.note true,
        ran, session, ?_, ?_⟩
      · rw [ranScript, runLines_cons_of_answered ranToo]
        rfl
      · rw [update_session, sessionToo]
        rfl
    · exact absurd fits unfit
  · rcases ranCommand with ⟨fits, _⟩ | ⟨_, whyToo, leftToo, ranToo⟩
    · exact absurd fits unfit
    · refine .inr ⟨unfit, ⟨why, congrArg Prod.fst ran⟩,
        ⟨some ⟨1, respaced (trim line)⟩, whyToo⟩, ?_⟩
      rw [ranScript, runLines_of_refused (congrArg Prod.fst ranToo)]

/-- Whatever characters its names and letters are, and however it is spaced, a connection succeeds
exactly when its arrows fit the machine. It then draws them in order and nothing else. This holds for a
line and for a script of that line alike. -/
theorem connectLine_draws (disk : Disk) (operations : List Operation) (delimiter : Delimiter)
    (isOpen : ((start disk).operateAll operations).session.closed = false)
    (held : ((start disk).operateAll operations).session.machine = some machine)
    (legible : Text.IsLegible source) (nonempty : arrows ≠ [])
    (legibleArrows : ∀ arrow ∈ arrows, arrow.IsLegible) :
    let workspace := (start disk).operateAll operations
    let line := connectLine source delimiter arrows
    let pairs := arrows.map SpelledArrow.pair
    ((∃ reply, (workspace.execute line).1 = .ok (.ok reply)) ↔ machine.Fits source pairs) ∧
      ((∃ result, (workspace.executeScript line).1 = .ok result ∧ result.succeeded = true) ↔
        machine.Fits source pairs) ∧
      (machine.Fits source pairs → ∃ next, machine.Draws source pairs next ∧
        (workspace.execute line).2.session = { workspace.session with
          machine := some next
          record := workspace.session.record ++ [trim line]
          successful := true } ∧
        (workspace.executeScript line).2.session = { workspace.session with
          machine := some next
          record := workspace.session.record ++ [respaced (trim line)]
          successful := true }) := by
  intro workspace line pairs
  have lawful : machine.IsLawful := isLawful_operateAll disk operations machine held
  rcases connectLine_cases isOpen held lawful legible nonempty legibleArrows delimiter with
    ⟨fits, reply, replyToo, left, leftToo, ran, session, ranToo, sessionToo⟩ |
    ⟨unfit, ⟨why, refused⟩, failure, failed⟩
  · rw [ran, ranToo]
    exact ⟨iff_of_true ⟨reply, rfl⟩ fits, iff_of_true ⟨_, rfl, rfl⟩ fits, fun _ =>
      ⟨_, Machine.draws_drawAll fits.1 pairs, session, sessionToo⟩⟩
  · rw [refused, failed]
    refine ⟨iff_of_false ?_ unfit, iff_of_false ?_ unfit, fun fits => absurd fits unfit⟩
    · rintro ⟨reply, impossible⟩
      cases impossible
    · rintro ⟨result, same, succeeded⟩
      cases same
      cases succeeded

end

/-- A session whose nodes and letters are punctuation. -/
def punctuated : Workspace :=
  (start ⟨[], [], []⟩).operateAll [.script "create nfa :, >; add -, /"]

/-- A dash before an arrow, and a colon before a colon. -/
theorem connectLine_draws_punctuated :
    (∃ reply, (punctuated.execute "connect -->::-,  > :  /").1 = .ok (.ok reply)) ∧
      ∃ result, (punctuated.executeScript "connect -->::-,  > :  /").1 = .ok result ∧
        result.succeeded = true := by
  let arrows : List SpelledArrow := [⟨':', '-', 0, 0, 0, 0⟩, ⟨'>', '/', 2, 1, 2, 0⟩]
  have same : connectLine '-' (.arrow 0 0) arrows = "connect -->::-,  > :  /" := by
    decide
  have held : punctuated.session.machine =
      some ⟨.nondeterministic, [':', '>'], ['-', '/'], some '-', [], []⟩ := by
    decide +kernel
  have legible : ∀ c ∈ ['-', ':', '>', '/'], Text.IsLegible c := by
    intro c member
    simp only [List.mem_cons, List.not_mem_nil, or_false] at member
    rcases member with rfl | rfl | rfl | rfl <;>
      exact ⟨by decide, by decide, by decide, by decide⟩
  have legibleArrows : ∀ arrow ∈ arrows, arrow.IsLegible := by
    intro arrow member
    simp only [arrows, List.mem_cons, List.not_mem_nil, or_false] at member
    rcases member with rfl | rfl <;> exact ⟨legible _ (by simp), legible _ (by simp)⟩
  have fits : Machine.Fits ⟨.nondeterministic, [':', '>'], ['-', '/'], some '-', [], []⟩ '-'
      [(':', '-'), ('>', '/')] := by
    unfold Machine.Fits Machine.MayRead
    decide
  have drawn := connectLine_draws ⟨[], [], []⟩ [.script "create nfa :, >; add -, /"] (.arrow 0 0)
    (by decide +kernel) held (legible '-' (by simp)) (by simp [arrows]) legibleArrows
  rw [same] at drawn
  exact ⟨drawn.1.2 fits, drawn.2.1.2 fits⟩

end Workspace

end AutomataShell
