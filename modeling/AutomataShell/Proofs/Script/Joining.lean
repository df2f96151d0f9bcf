import AutomataShell.Proofs.Script.FixedPoint

/-! Scripts joined by a semicolon. Where no comment opens and no line is a directive, a script is no more
than its lines one after the other, so the lines of two scripts that are joined are those of the one and
then those of the other. -/

set_option autoImplicit false

namespace AutomataShell.Script

open Text

/-- A script of plain lines. No comment opens in it, and no line is a directive. -/
structure IsStraight (script : Text) : Prop where
  uncommented : ¬ ['/', '*'] <:+: script
  plain : ∀ line ∈ logicalLines script, directiveOf line = none

/-- No comment opens across a mark that is no part of its opening. -/
theorem uncommented_append_cons {mark : Char} (noSlash : mark ≠ '/') (noStar : mark ≠ '*')
    {first second : Text} (uncommented : ¬ ['/', '*'] <:+: first)
    (uncommentedToo : ¬ ['/', '*'] <:+: second) : ¬ ['/', '*'] <:+: first ++ mark :: second := by
  induction first with
  | nil => simpa [List.infix_cons_iff, noSlash.symm] using uncommentedToo
  | cons c rest ih =>
    rw [List.infix_cons_iff, not_or] at uncommented
    rw [List.cons_append, List.infix_cons_iff, not_or]
    refine ⟨?_, ih uncommented.2⟩
    rcases rest with _ | ⟨d, rest⟩
    · simp [noStar.symm]
    · simpa using uncommented.1

theorem uncommented_join {first second : Text} (uncommented : ¬ ['/', '*'] <:+: first)
    (uncommentedToo : ¬ ['/', '*'] <:+: second) : ¬ ['/', '*'] <:+: first ++ ';' :: second :=
  uncommented_append_cons (by decide) (by decide) uncommented uncommentedToo

theorem logicalLines_of_uncommented {script : Text} (uncommented : ¬ ['/', '*'] <:+: script) :
    logicalLines script = statements (breaksAsSpaces script) := by
  rw [logicalLines, removeComments_of_uncommented uncommented]

section

variable {first second : Text}

theorem IsStraight.logicalLines_join (straight : IsStraight first) (straightToo : IsStraight second) :
    logicalLines (first ++ ';' :: second) = logicalLines first ++ logicalLines second := by
  have joined : breaksAsSpaces (first ++ ';' :: second) =
      breaksAsSpaces first ++ ';' :: breaksAsSpaces second := by
    simp [breaksAsSpaces]
  rw [logicalLines_of_uncommented (uncommented_join straight.uncommented straightToo.uncommented),
    logicalLines_of_uncommented straight.uncommented,
    logicalLines_of_uncommented straightToo.uncommented, joined, statements_append_mark]

theorem IsStraight.join (straight : IsStraight first) (straightToo : IsStraight second) :
    IsStraight (first ++ ';' :: second) where
  uncommented := uncommented_join straight.uncommented straightToo.uncommented
  plain line member := by
    rw [straight.logicalLines_join straightToo, List.mem_append] at member
    exact member.elim (straight.plain line) (straightToo.plain line)

end

/-- The commands of a straight script are its lines, each spaced anew. -/
theorem IsStraight.expansion_eq {script : Text} (straight : IsStraight script) :
    expansion script =
      (⟨[], false, false, ((logicalLines script).map (Expansion.command [])).reverse⟩, none) := by
  have ran := Expansion.run_of_plain straight.plain []
  rw [List.append_nil] at ran
  exact ran

theorem length_statements_le_length (text : Text) : (statements text).length ≤ text.length := by
  have bounded (parts : List Text) :
      ((parts.map trim).filter fun line => !line.isEmpty).length ≤ parts.flatten.length := by
    induction parts with
    | nil => rfl
    | cons part rest ih =>
      rw [List.map_cons, List.filter_cons, List.flatten_cons, List.length_append]
      split
      · rename_i some
        -- What is left of the part is some of its characters.
        have nonempty : part ≠ [] := by
          rintro rfl
          revert some
          decide
        have counted : 0 < part.length := List.length_pos_iff.2 nonempty
        rw [List.length_cons]
        omega
      · omega
  calc (statements text).length
      ≤ (pieces ';' text).flatten.length := bounded _
    _ ≤ text.length := by
      rw [flatten_pieces]
      exact List.length_filter_le _ _

theorem length_logicalLines_le_length (script : Text) :
    (logicalLines script).length ≤ script.length := by
  refine (length_statements_le_length _).trans ?_
  rw [breaksAsSpaces, List.length_map]
  exact (removeComments_sublist script).length_le

end AutomataShell.Script
