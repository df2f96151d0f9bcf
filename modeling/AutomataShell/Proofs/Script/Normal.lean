import AutomataShell.Proofs.Script.Spelling
import AutomataShell.Proofs.Script.Survival

/-! Commands in normal form. A token is its own only token, so a command that an expansion has made of a
line is what it makes of that command. -/

set_option autoImplicit false

namespace AutomataShell.Script

open Text

/-- A line that names a file, as it is kept. -/
theorem entry_of_takesPath {word rest : Text}
    (takesPath : lower word = "import" ∨ lower word = "export") (isTail : IsTail rest)
    (before : List Text) :
    entry before (word ++ rest) = if rest.all isBlank then word else word ++ " " ++ trim rest := by
  have isWord := isWord_of_takesPath takesPath
  have first := IsStorable.takeWhile_eq isWord isTail
  have remains : (word ++ rest).dropWhile (· ≠ ' ') = rest := by
    have whole := List.takeWhile_append_dropWhile (p := (· ≠ ' ')) (l := word ++ rest)
    rw [first] at whole
    exact List.append_cancel_left whole
  unfold entry
  simp only [first, remains, if_pos takesPath]

/-- With no line before, a token stands for itself. -/
theorem standIn_nil : standIn [] = id := rfl

theorem entry_join {list : List Text} (alone : ∀ word ∈ list, tokens word = [word]) :
    entry [] (join " " list) = join " " list := by
  have areWords : ∀ word ∈ list, IsWord word := by
    intro word member
    have isToken : word ∈ tokens word := by simp [alone word member]
    exact isWord_of_mem_tokens isToken
  rcases list with _ | ⟨word, rest⟩
  · rfl
  by_cases takesPath : lower word = "import" ∨ lower word = "export"
  · rw [join_cons, entry_of_takesPath takesPath (isTail_join rest)]
    by_cases more : rest = []
    · simp [more]
    · have wordsOfRest := fun other member => areWords other (List.mem_cons_of_mem word member)
      have trimmed : trim (' ' :: join " " rest) = join " " rest := by
        rw [trim_cons_of_isBlank isBlank_space, trim_join wordsOfRest]
      have solid : ¬ (' ' :: join " " rest).all isBlank = true := by
        rw [← trim_eq_nil_iff, trimmed, join_eq_nil_iff wordsOfRest]
        exact more
      rw [if_neg more, if_neg solid, trimmed, List.append_assoc]
      rfl
  · have first : (join " " (word :: rest)).takeWhile (· ≠ ' ') = word := by
      rw [join_cons, IsStorable.takeWhile_eq (areWords word List.mem_cons_self) (isTail_join rest)]
    unfold entry
    simp only [first, if_neg takesPath]
    rw [tokens_join, flatMap_tokens_eq_self alone, standIn_nil, List.map_id]

/-- A command is kept when it is expanded again, unless a renaming has put a mark into a token. -/
theorem entry_entry {before : List Text} {line : Text}
    (plain : ∀ earlier ∈ before, ∀ old new, renamingOf earlier = some (old, new) → IsPlain new) :
    entry [] (entry before line) = entry before line := by
  rcases entry_cases before line with ⟨word, rest, _, takesPath, _, same⟩ | same
  · rw [same]
    split
    · have kept := entry_of_takesPath takesPath (Or.inl rfl) []
      rwa [List.append_nil, List.all_nil, if_pos rfl] at kept
    · rename_i solid
      -- The rest has been trimmed, so it is kept.
      have kept := entry_of_takesPath takesPath (Or.inr ⟨trim rest, rfl⟩) []
      have stillSolid : ¬ (' ' :: trim rest).all isBlank = true := by
        rwa [← trim_eq_nil_iff, trim_cons_of_isBlank isBlank_space, trim_trim, trim_eq_nil_iff]
      rw [if_neg stillSolid, trim_cons_of_isBlank isBlank_space, trim_trim] at kept
      rwa [List.append_assoc] at kept ⊢
  · rw [same]
    refine entry_join fun word member => ?_
    obtain ⟨token, inTokens, rfl⟩ := List.mem_map.1 member
    rcases standIn_eq_or_renamingOf before token with same | ⟨earlier, inBefore, renames⟩
    · rw [same]
      exact tokens_of_mem_tokens inTokens
    · exact tokens_of_plain (isWord_of_mem_words (mem_words_of_renamingOf renames))
        (plain earlier inBefore token _ renames)

theorem entry_of_mem_entries {lines : List Text}
    (plain : ∀ line ∈ lines, ∀ old new, renamingOf line = some (old, new) → IsPlain new)
    {command : Text} (member : command ∈ entries lines) : entry [] command = command := by
  obtain ⟨place, inForce, rfl⟩ := List.mem_map.1 member
  obtain ⟨_, earlier⟩ := mem_of_mem_placed (List.mem_filter.1 (List.mem_filter.1 inForce).1).1
  refine entry_entry fun other inPlace => ?_
  exact plain other ((earlier other inPlace).resolve_left List.not_mem_nil)

end AutomataShell.Script
