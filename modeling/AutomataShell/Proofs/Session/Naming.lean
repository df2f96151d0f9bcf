import AutomataShell.Proofs.Script.FileNames
import AutomataShell.Proofs.Script.Meaning
import AutomataShell.Proofs.Session.Importing

/-! The file names that a script hands to the verbs that take one. -/

set_option autoImplicit false

namespace AutomataShell.Workspace

open Script Text

/-- A script that expands runs one command for each of its lines that is in force and no directive. Of a
line whose verb takes a file name, the command hands on what follows the verb. That is the rest of the
line as it stands if and only if a space follows the verb, or the tokens of the rest, spaced anew and each
replaced by what it was renamed to, happen to be the rest again. -/
theorem fileName_kept_iff {script expanded : Text} (expands : preprocess script = .ok expanded)
    {before : List Text} {line : Text} (isInForce : (before, line) ∈ inForce (logicalLines script))
    {verb : Verb} (known : Verb.ofKeyword (lower (headWord line).1) = some verb)
    (takesPath : verb.takesPath = true) :
    (∀ (nested : Runner) (workspace : Workspace), workspace.session.closed = false →
      workspace.runScript nested script =
        (workspace.told script).runLines nested 1 (entries (logicalLines script))) ∧
      entry before line ∈ entries (logicalLines script) ∧
      (keywordOf (trim (entry before line))).1 = lower (headWord line).1 ∧
      ((keywordOf (trim (entry before line))).2 = (headWord line).2 ↔
        (line.dropWhile fun c => !isBlank c).head? = some ' ' ∨
          join " " ((tokens (headWord line).2).map (standIn before)) = (headWord line).2) := by
  have clean : ∀ other ∈ logicalLines script, IsClean other := fun _ => isClean_logicalLines
  obtain ⟨isPlaced, _⟩ := List.mem_filter.1 isInForce
  obtain ⟨_, after, lines, rfl⟩ := mem_placed_iff.1 isPlaced
  have inLines : line ∈ logicalLines script := (mem_of_mem_placed isPlaced).1
  have sound := isSound_of_preprocess expands
  refine ⟨fun nested workspace isOpen => ?_, ?_, ?_⟩
  · obtain ⟨commands, isExpansion, rfl⟩ := Command.map_eq_ok_iff.1 expands
    rw [runScript_of_text isOpen (not_all_isBlank_of_mem_logicalLines inLines), expands]
    simp only
    rw [expand_eq_entries isExpansion,
      splitCommands_written fun command member => isClean_of_mem_entries clean member]
  · refine List.mem_map.2 ⟨(before, line), List.mem_filter.2 ⟨isInForce, ?_⟩, rfl⟩
    rw [decide_eq_true_eq]
    exact directiveOf_eq_none_of_ofKeyword (clean line inLines).trimmed known
  · rw [lines] at sound clean
    rw [keywordOf_entry sound clean known takesPath]
    refine ⟨rfl, ?_⟩
    split
    · rename_i space
      simp [space]
    · rename_i noSpace
      simp [noSpace]

/-- Behind a no-break space, the colon, the comma and the arrow of a file name get spaces around them. -/
theorem fileName_not_kept_noBreak :
    (keywordOf (trim (entry [] "import\u00a0v1:final,a->b.txt"))).2 ≠ ("v1:final,a->b.txt" : Text) := by
  have expands : preprocess "import\u00a0v1:final,a->b.txt" =
      .ok "import v1 : final , a -> b.txt;\n" := by
    decide +kernel
  have isInForce : (([], "import\u00a0v1:final,a->b.txt") : List Text × Text) ∈
      inForce (logicalLines "import\u00a0v1:final,a->b.txt") := by
    decide +kernel
  have known : Verb.ofKeyword (lower (headWord "import\u00a0v1:final,a->b.txt").1) =
      some .importFile := by
    decide +kernel
  have remainder : (headWord "import\u00a0v1:final,a->b.txt").2 = ("v1:final,a->b.txt" : Text) := by
    decide +kernel
  have handed := fileName_kept_iff expands isInForce known rfl
  intro kept
  rw [← remainder] at kept
  have unspaced := handed.2.2.2.1 kept
  revert unspaced
  decide +kernel

end AutomataShell.Workspace
