import AutomataShell.Proofs.Script.Lines
import AutomataShell.Proofs.Script.Meaning

/-! The commands of an expanded script. Splitting the text gives back the list that it was written from,
so the text and the list hold the same. -/

set_option autoImplicit false

namespace AutomataShell.Script

open Text

theorem IsClean.not_isBlank {line : Text} (clean : IsClean line) : line.all isBlank = false := by
  rw [← Bool.not_eq_true, ← trim_eq_nil_iff, clean.trimmed]
  exact clean.nonempty

/-- What a script expands to is split into the very commands that were emitted. Each is trimmed, not
blank and free of semicolons and breaks, and written one a line they are the expanded script. -/
theorem splitCommands_of_preprocess {script expanded : Text}
    (succeeded : preprocess script = .ok expanded) :
    expand script = .ok (splitCommands expanded) ∧
      (∀ command ∈ splitCommands expanded, command.all isBlank = false ∧ IsClean command) ∧
      written (splitCommands expanded) = expanded := by
  obtain ⟨emitted, rfl⟩ := expand_of_preprocess succeeded
  have clean : ∀ command ∈ entries (logicalLines script), IsClean command :=
    fun _ => isClean_of_mem_entries fun _ => isClean_logicalLines
  rw [splitCommands_written clean]
  exact ⟨emitted, fun command member => ⟨(clean command member).not_isBlank, clean command member⟩,
    rfl⟩

/-- Blanks within a file name, a verb without one, an arrow that a renaming has put in place of a token
and empty lines. -/
theorem splitCommands_of_preprocess_fileNames :
    let script : Text := "#namedef p ->;; /*;*/ ;import  a,\u00a0\t b ;EXPORT ;add\u2003p:\rx"
    let expanded : Text := "import a,\u00a0  b;\nEXPORT;\nadd -> : x;\n"
    preprocess script = .ok expanded ∧
      splitCommands expanded = ["import a,\u00a0  b", "EXPORT", "add -> : x"] ∧
      expand script = .ok (splitCommands expanded) ∧
      (∀ command ∈ splitCommands expanded, command.all isBlank = false ∧ IsClean command) ∧
      written (splitCommands expanded) = expanded := by
  intro script expanded
  have succeeded : preprocess script = .ok expanded := by decide +kernel
  exact ⟨succeeded, by decide +kernel, splitCommands_of_preprocess succeeded⟩

end AutomataShell.Script
