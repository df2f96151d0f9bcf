import AutomataShell.Command.Arguments
import AutomataShell.Proofs.Text.Lowering
import AutomataShell.Proofs.Text.Words

/-! Keywords and the verbs behind commands that have been read. -/

set_option autoImplicit false

namespace AutomataShell

open Text

namespace Verb

theorem mem_keywords_of_ofKeyword {word : Text} {verb : Verb}
    (known : ofKeyword word = some verb) : (word, verb) ∈ keywords := by
  obtain ⟨before, after, split, _⟩ := List.lookup_eq_some_iff.1 known
  rw [split]
  simp

/-- A word that is a keyword in lower case holds no character that is its own lower case and stands
in no keyword. -/
theorem notMem_of_ofKeyword {word : Text} {verb : Verb} (known : ofKeyword (lower word) = some verb)
    {c : Char} (own : lowerChar c = [c]) (notSigma : c ≠ 'Σ')
    (foreign : keywords.all (fun entry => !entry.1.contains c) = true) : c ∉ word := by
  intro member
  have inKeyword := mem_lower own notSigma member
  have apart := List.all_eq_true.1 foreign _ (mem_keywords_of_ofKeyword known)
  simp [inKeyword] at apart

/-- The marks of the script language stand in no word of a verb. -/
theorem marks_notMem_of_ofKeyword {word : Text} {verb : Verb}
    (known : ofKeyword (lower word) = some verb) :
    ∀ mark ∈ ['/', '*', ';', ',', ':', '-'], mark ∉ word := by
  have foreign : ['/', '*', ';', ',', ':', '-'].all (fun mark =>
      lowerChar mark == [mark] && mark != 'Σ' &&
        keywords.all fun entry => !entry.1.contains mark) = true := by
    decide
  intro mark member
  have apart := List.all_eq_true.1 foreign mark member
  simp only [Bool.and_eq_true, beq_iff_eq, bne_iff_ne] at apart
  exact notMem_of_ofKeyword known apart.1.1 apart.1.2 apart.2

theorem isWord_of_ofKeyword {word : Text} {verb : Verb}
    (known : ofKeyword (lower word) = some verb) : IsWord word := by
  constructor
  · intro none
    rw [none] at known
    cases known
  · -- A blank would still stand in the lower case, and no keyword holds one.
    intro c member
    by_contra blank
    rw [Bool.not_eq_false] at blank
    have solid : keywords.all (fun entry => entry.1.all fun d => !isBlank d) = true := by
      decide
    have solidKeyword := List.all_eq_true.1 solid _ (mem_keywords_of_ofKeyword known)
    have notBlank := List.all_eq_true.1 solidKeyword c (mem_lower_of_isBlank blank member)
    rw [blank] at notBlank
    cases notBlank

end Verb

namespace Command

def verb : Command → Verb
  | .create _ _ => .create
  | .add _ => .add
  | .connect _ _ => .connect
  | .accept _ => .accept
  | .execute _ => .execute
  | .displayAll | .display _ => .display
  | .help _ => .help
  | .exportFile _ => .exportFile
  | .importFile _ => .importFile
  | .exit => .exit

theorem map_eq_ok_iff {Reason α β : Type} {change : α → β} {outcome : Except Reason α} {b : β} :
    outcome.map change = .ok b ↔ ∃ a, outcome = .ok a ∧ change a = b := by
  cases outcome <;> simp [Except.map]

theorem verb_of_readCreate {arguments : Text} {command : Command}
    (read : readCreate arguments = .ok command) :
    ∃ kind symbols, command = .create kind symbols := by
  unfold readCreate at read
  split at read
  · cases read
  · split at read
    · cases read
    · obtain ⟨symbols, _, rfl⟩ := map_eq_ok_iff.1 read
      exact ⟨_, symbols, rfl⟩

theorem verb_of_readConnect {arguments : Text} {command : Command}
    (read : readConnect arguments = .ok command) :
    ∃ source arrows, command = .connect source arrows := by
  unfold readConnect at read
  split at read
  · cases read
  · split at read
    · cases read
    · obtain ⟨arrows, _, rfl⟩ := map_eq_ok_iff.1 read
      exact ⟨_, arrows, rfl⟩
    · cases read

/-- What is read after a verb is a command of that verb. -/
theorem verb_of_read {verb : Verb} {arguments : Text} {command : Command}
    (read : Command.read verb arguments = .ok command) : command.verb = verb := by
  cases verb with
  | create =>
    obtain ⟨kind, symbols, rfl⟩ := verb_of_readCreate read
    rfl
  | connect =>
    obtain ⟨source, arrows, rfl⟩ := verb_of_readConnect read
    rfl
  | display =>
    simp only [Command.read, readDisplay] at read
    split at read
    · cases read
      rfl
    · obtain ⟨names, _, rfl⟩ := map_eq_ok_iff.1 read
      rfl
  | execute | help | exit =>
    cases read
    rfl
  | add | accept | exportFile | importFile =>
    obtain ⟨read, _, rfl⟩ := map_eq_ok_iff.1 read
    rfl

end Command

end AutomataShell
