import AutomataShell.Proofs.Command.Reading
import AutomataShell.Proofs.Script.Scope

/-! An expansion under way agrees with the scope of the directives read so far: each line that it
takes keeps the agreement. -/

set_option autoImplicit false

namespace AutomataShell.Script

open Text

theorem keywordTakesPath_iff (keyword : Text) :
    Expansion.keywordTakesPath keyword = true ↔
      lower keyword = "import" ∨ lower keyword = "export" := by
  rw [Expansion.keywordTakesPath, Option.any_eq_true]
  generalize lower keyword = word
  constructor
  · intro found
    obtain ⟨verb, known, takesPath⟩ := found
    have files : ∀ entry ∈ Verb.keywords, entry.2.takesPath = true →
        entry.1 = "import" ∨ entry.1 = "export" := by
      decide
    exact files (word, verb) (Verb.mem_keywords_of_ofKeyword known) takesPath
  · rintro (rfl | rfl)
    · exact ⟨.importFile, by decide, rfl⟩
    · exact ⟨.exportFile, by decide, rfl⟩

theorem isWord_of_takesPath {keyword : Text}
    (takesPath : lower keyword = "import" ∨ lower keyword = "export") : IsWord keyword := by
  rcases takesPath with same | same
  · have known : Verb.ofKeyword (lower keyword) = some .importFile := by
      rw [same]
      decide
    exact Verb.isWord_of_ofKeyword known
  · have known : Verb.ofKeyword (lower keyword) = some .exportFile := by
      rw [same]
      decide
    exact Verb.isWord_of_ofKeyword known

theorem command_eq_entry {before : List Text} {definitions : List Definition}
    (agrees : ∀ token, replacement definitions token = standIn before token) (line : Text) :
    Expansion.command definitions line = entry before line := by
  have sameTokens : (tokens line).map (replacement definitions) =
      (tokens line).map (standIn before) :=
    List.map_congr_left fun token _ => agrees token
  unfold Expansion.command entry
  simp only [sameTokens]
  by_cases takesPath : lower (line.takeWhile (· ≠ ' ')) = "import" ∨
      lower (line.takeWhile (· ≠ ' ')) = "export"
  · rw [if_pos ((keywordTakesPath_iff _).2 takesPath), if_pos takesPath]
    by_cases blank : (line.dropWhile (· ≠ ' ')).all isBlank = true
    · have solid : trimEnd (line.takeWhile (· ≠ ' ')) = line.takeWhile (· ≠ ' ') :=
        trimEnd_of_solid (isWord_of_takesPath takesPath).2
      have space : trimEnd (" " : Text) = [] := by decide
      rw [if_pos blank, (trim_eq_nil_iff _).2 blank, List.append_nil, trimEnd_append, if_pos space,
        solid]
    · have kept : trim (line.dropWhile (· ≠ ' ')) ≠ [] := mt (trim_eq_nil_iff _).1 blank
      rw [if_neg blank, trimEnd_append, trimEnd_trim, if_neg kept]
  · rw [if_neg (mt (keywordTakesPath_iff _).1 takesPath), if_neg takesPath]

namespace Expansion

/-- An expansion that has taken some lines and knows what they mean. -/
structure Agrees (before : List Text) (state : Expansion) : Prop where
  suppressed : state.suppressed = true ↔ Suppressed before
  defined : ∀ name, isDefined state.definitions name = true ↔ Defined before name
  stands : ∀ token, replacement state.definitions token = standIn before token
  closed : state.blockOpen = false ↔ IsClosed before
  commands : state.commandsInOrder = entries before

variable {before : List Text} {state : Expansion} {line : Text}

theorem step_eq (line : Text) (state : Expansion) :
    state.step line =
      match directiveOf line with
      | none => .ok (if state.suppressed then state else state.emit line)
      | some directive =>
        if state.suppressed && directive ≠ Directive.endBlock then .ok state
        else state.obey directive (operandsOf line) line := by
  rw [Expansion.step, ofKeyword_eq_lookup]
  rfl

theorem agrees_start : Agrees [] start where
  suppressed := by simp [start, not_suppressed_nil]
  defined := by simp [start, isDefined, not_defined_nil]
  stands _ := rfl
  closed := by simp [start, IsClosed]
  commands := rfl

namespace Agrees

theorem skip (agrees : Agrees before state) (suppressed : Suppressed before)
    (unended : directiveOf line ≠ some .endBlock) : Agrees (before ++ [line]) state where
  suppressed := by
    rw [agrees.suppressed, suppressed_concat]
    exact ⟨fun held => ⟨unended, Or.inl held⟩, fun _ => suppressed⟩
  defined name := by
    rw [agrees.defined, defined_concat]
    simp [suppressed]
  stands token := by
    rw [agrees.stands, standIn, standIn, renamings_concat]
    simp [suppressed]
  closed := by
    -- A condition that is skipped opens no block, but one is open already.
    rw [agrees.closed, isClosed_concat]
    simp [unended, not_isClosed_of_suppressed suppressed]
  commands := by
    rw [agrees.commands, entries_concat]
    simp [suppressed]

theorem emit (agrees : Agrees before state) (inForce : ¬ Suppressed before)
    (plain : directiveOf line = none) : Agrees (before ++ [line]) (state.emit line) where
  suppressed := by
    have unfailed : ¬ Fails before line := fun fails => by
      rcases directiveOf_of_fails fails with opens | opens <;> simp [plain] at opens
    rw [suppressed_concat]
    simp [Expansion.emit, agrees.suppressed, plain, unfailed]
  defined name := by
    rw [defined_concat]
    simp [Expansion.emit, agrees.defined, plain]
  stands token := by
    rw [standIn_concat_of_other (by simp [renamingOf, plain])]
    exact agrees.stands token
  closed := by
    rw [Expansion.emit, agrees.closed, isClosed_concat]
    simp [marksBlock, plain]
  commands := by
    have sameCommand := command_eq_entry agrees.stands line
    have earlier := agrees.commands
    rw [commandsInOrder] at earlier
    rw [entries_concat, ← earlier]
    simp [Expansion.emit, commandsInOrder, inForce, plain, sameCommand]

theorem closeBlock (agrees : Agrees before state) (ends : directiveOf line = some .endBlock) :
    Agrees (before ++ [line]) state.closeBlock where
  suppressed := by
    rw [suppressed_concat]
    simp [Expansion.closeBlock, ends]
  defined name := by
    rw [defined_concat]
    simp [Expansion.closeBlock, agrees.defined, ends]
  stands token := by
    rw [standIn_concat_of_other (by simp [renamingOf, ends])]
    exact agrees.stands token
  closed := by
    rw [isClosed_concat]
    simp [Expansion.closeBlock, marksBlock, ends]
  commands := by
    rw [entries_concat_of_directive (by simp [ends])]
    exact agrees.commands

theorem openBlock (agrees : Agrees before state) (inForce : ¬ Suppressed before) {failed : Bool}
    (opens : directiveOf line = some .ifDefined ∨ directiveOf line = some .ifUndefined)
    (fails : failed = true ↔ Fails before line) :
    Agrees (before ++ [line]) (state.openBlock failed) where
  suppressed := by
    rw [suppressed_concat]
    rcases opens with opens | opens <;> simp [Expansion.openBlock, opens, inForce, fails]
  defined name := by
    rw [defined_concat]
    rcases opens with opens | opens <;> simp [Expansion.openBlock, agrees.defined, opens]
  stands token := by
    have other : renamingOf line = none := by
      rcases opens with opens | opens <;> simp [renamingOf, opens]
    rw [standIn_concat_of_other other]
    exact agrees.stands token
  closed := by
    rw [isClosed_concat]
    rcases opens with opens | opens <;> simp [Expansion.openBlock, marksBlock, opens]
  commands := by
    have isDirective : directiveOf line ≠ none := by
      rcases opens with opens | opens <;> simp [opens]
    rw [entries_concat_of_directive isDirective]
    exact agrees.commands

theorem define (agrees : Agrees before state) (inForce : ¬ Suppressed before)
    {definition : Definition}
    (defines : match definition with
      | .flag name => directiveOf line = some .define ∧ operandsOf line = [name]
      | .renaming old new => directiveOf line = some .rename ∧ operandsOf line = [old, new]) :
    Agrees (before ++ [line]) (state.define definition) where
  suppressed := by
    have unfailed : ¬ Fails before line := fun fails => by
      cases definition <;> rcases directiveOf_of_fails fails with opens | opens <;>
        simp [opens] at defines
    rw [suppressed_concat]
    cases definition <;> simp [Expansion.define, agrees.suppressed, defines, unfailed]
  defined name := by
    have earlier := agrees.defined name
    rw [isDefined, List.contains_iff_mem] at earlier
    rw [defined_concat, isDefined, List.contains_iff_mem, Expansion.define, List.mem_cons, earlier,
      or_comm]
    apply or_congr_right
    rcases definition with other | ⟨old, new⟩
    · simp [defines, inForce, eq_comm]
    · simp [defines]
  stands token := by
    have earlier := agrees.stands token
    rcases definition with name | ⟨old, new⟩
    · rw [standIn_concat_of_other (by simp [renamingOf, defines])]
      exact earlier
    · -- The latest renaming stands last in the list and first in the table.
      rw [standIn] at earlier
      rw [standIn, renamings_concat]
      by_cases same : old = token
      · simp [Expansion.define, replacement, renamingOf, defines, inForce, same]
      · have different : (token == old) = false := by simpa using fun equal => same equal.symm
        simp [Expansion.define, replacement, renamingOf, defines, inForce, same, earlier,
          List.lookup_cons, different]
  closed := by
    rw [isClosed_concat]
    cases definition <;> simp [Expansion.define, marksBlock, defines, agrees.closed]
  commands := by
    have isDirective : directiveOf line ≠ none := by
      cases definition <;> simp [defines]
    rw [entries_concat_of_directive isDirective]
    exact agrees.commands

/-- A directive that is obeyed. -/
theorem obey (agrees : Agrees before state) {next : Expansion} {directive : Directive}
    (isDirective : directiveOf line = some directive)
    (inForce : directive = .endBlock ∨ ¬ Suppressed before)
    (obeyed : state.obey directive (operandsOf line) line = .ok next) :
    Agrees (before ++ [line]) next := by
  unfold Expansion.obey at obeyed
  split at obeyed
  · rename_i old new operands
    split at obeyed
    · cases obeyed
    · -- Only the end of a block is obeyed where it is suppressed, and this is none.
      cases obeyed
      exact agrees.define (inForce.resolve_left (by simp)) ⟨isDirective, operands⟩
  · rename_i name operands
    cases obeyed
    exact agrees.define (inForce.resolve_left (by simp)) ⟨isDirective, operands⟩
  · rename_i name operands
    cases obeyed
    apply agrees.openBlock (inForce.resolve_left (by simp)) (Or.inl isDirective)
    have undefined := not_congr (agrees.defined name)
    simpa [Fails, isDirective, operands] using undefined
  · rename_i name operands
    cases obeyed
    apply agrees.openBlock (inForce.resolve_left (by simp)) (Or.inr isDirective)
    simpa [Fails, isDirective, operands] using agrees.defined name
  · cases obeyed
    exact agrees.closeBlock isDirective
  · cases obeyed

theorem step (agrees : Agrees before state) {next : Expansion}
    (stepped : state.step line = .ok next) : Agrees (before ++ [line]) next := by
  have suppressed := agrees.suppressed
  rw [step_eq] at stepped
  cases isDirective : directiveOf line with
  | none =>
    simp only [isDirective] at stepped
    split at stepped
    · rename_i held
      cases stepped
      exact agrees.skip (suppressed.1 held) (by simp [isDirective])
    · rename_i held
      cases stepped
      exact agrees.emit (mt suppressed.2 held) isDirective
  | some directive =>
    simp only [isDirective] at stepped
    split at stepped
    · rename_i held
      simp only [ne_eq, decide_not, Bool.and_eq_true, Bool.not_eq_eq_eq_not, Bool.not_true,
        decide_eq_false_iff_not] at held
      cases stepped
      exact agrees.skip (suppressed.1 held.1) (by simpa [isDirective] using held.2)
    · rename_i held
      apply agrees.obey isDirective _ stepped
      by_cases ends : directive = .endBlock
      · exact Or.inl ends
      · exact Or.inr fun inside => held (by simp [suppressed.2 inside, ends])

end Agrees

end Expansion

end AutomataShell.Script
