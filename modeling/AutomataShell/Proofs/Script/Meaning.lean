import AutomataShell.Proofs.Script.Agreement
import AutomataShell.Proofs.Script.Layout

/-! What a script expands to. The commands are told from the logical lines alone, by the scope of the
directives, and the expansion line by line comes to the same. -/

set_option autoImplicit false

namespace AutomataShell.Script

open Text

-- The lines taken so far grow at their end while the lines still to come lose their first.
theorem Expansion.Agrees.run {before lines : List Text} {state final : Expansion}
    (agrees : state.Agrees before) (ran : state.run lines = (final, none)) :
    final.Agrees (before ++ lines) := by
  induction lines generalizing before state with
  | nil =>
    simp only [Expansion.run, Prod.mk.injEq] at ran
    rw [List.append_nil, ← ran.1]
    exact agrees
  | cons line rest ih =>
    rw [Expansion.run] at ran
    split at ran
    · rename_i next stepped
      rw [List.append_cons]
      exact ih (agrees.step stepped) ran
    · cases ran

theorem expand_eq_entries {script : Text} {commands : List Text}
    (expanded : expand script = .ok commands) : commands = entries (logicalLines script) := by
  unfold expand at expanded
  split at expanded
  · rename_i state ran
    cases expanded
    have agrees := Expansion.agrees_start.run ran
    exact agrees.commands
  · cases expanded

theorem expand_of_preprocess {script expanded : Text}
    (succeeded : preprocess script = .ok expanded) :
    expand script = .ok (entries (logicalLines script)) ∧
      expanded = written (entries (logicalLines script)) := by
  obtain ⟨commands, isExpansion, rfl⟩ := Command.map_eq_ok_iff.1 succeeded
  obtain rfl := expand_eq_entries isExpansion
  exact ⟨isExpansion, rfl⟩

/-- An expanded script holds the commands of its logical lines in their order, each followed by a
semicolon and a line feed. -/
theorem preprocess_eq_written_entries {script expanded : Text}
    (succeeded : preprocess script = .ok expanded) :
    ∃ lines, (∀ others, HasLines script others ↔ others = lines) ∧
      expanded = (entries lines).flatMap fun entry => entry ++ [';', '\n'] :=
  ⟨logicalLines script, fun _ => hasLines_iff, (expand_of_preprocess succeeded).2⟩

/-- Breaks around a line and within a file name, tabs between words, and a definition that is
suppressed itself. -/
theorem preprocess_eq_written_entries_of_block :
    let script : Text := "#namedef p\tq;\r\n#ifdef s;add p;#define s;#endif;#ifdef s\n;add z;#endif;" ++
      "add p,/*;*/r;IMPORT\tp:p->q,\r\np.txt"
    let lines : List Text := ["#namedef p q", "#ifdef s", "add p", "#define s", "#endif", "#ifdef s",
      "add z", "#endif", "add p,r", "IMPORT p:p->q,  p.txt"]
    preprocess script = .ok "add q , r;\nIMPORT p:p->q,  p.txt;\n" ∧ HasLines script lines ∧
      ("add q , r;\nIMPORT p:p->q,  p.txt;\n" : Text) =
        (entries lines).flatMap fun entry => entry ++ [';', '\n'] := by
  intro script lines
  have succeeded : preprocess script = .ok "add q , r;\nIMPORT p:p->q,  p.txt;\n" := by
    decide +kernel
  have cut : HasLines script lines := hasLines_iff.2 (by decide +kernel)
  obtain ⟨found, unique, written⟩ := preprocess_eq_written_entries succeeded
  obtain rfl := (unique lines).1 cut
  exact ⟨succeeded, cut, written⟩

end AutomataShell.Script
