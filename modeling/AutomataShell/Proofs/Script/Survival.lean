import AutomataShell.Proofs.Script.Storage
import AutomataShell.Session.Basic

/-! What survives of stored lines when they are expanded as a script. -/

set_option autoImplicit false

namespace AutomataShell.Script

open Text

/-- The commands that stored lines expand to: what is left of them without comments, with single
spaces between the tokens. -/
def survivors (lines : List Text) : List Text :=
  (logicalLines (written lines)).map respaced

theorem isTail_trimEnd {rest : Text} (isTail : IsTail rest) : IsTail (trimEnd rest) := by
  rcases isTail with rfl | ⟨more, rfl⟩
  · exact Or.inl rfl
  · rw [trimEnd]
    cases trimEnd more with
    | nil => simp [IsTail]
    | cons c kept => exact Or.inr ⟨c :: kept, rfl⟩

theorem isTail_join (rest : List Text) : IsTail (if rest = [] then [] else ' ' :: join " " rest) := by
  split
  · exact Or.inl rfl
  · exact Or.inr ⟨_, rfl⟩

namespace IsStorable

variable {line : Text}

theorem keywordOf_eq (storable : IsStorable line) :
    ∃ verb, Verb.ofKeyword (keywordOf line).1 = some verb ∧ verb.isReplayed = true := by
  obtain ⟨word, rest, rfl, isVerb, isTail, _⟩ := storable
  rw [keywordOf, headWord_append isVerb.isWord isTail]
  exact isVerb.ofKeyword_eq

theorem isReplayable (storable : IsStorable line) : isReplayable line = true := by
  obtain ⟨verb, known, replayed⟩ := storable.keywordOf_eq
  rw [AutomataShell.isReplayable, known, Option.any_some, replayed]

theorem words_headD {word rest : Text} (isWord : IsWord word) (isTail : IsTail rest) :
    (words (word ++ rest)).headD [] = word := by
  rcases isTail with rfl | ⟨more, rfl⟩
  · rw [List.append_nil, words_of_isWord isWord, List.headD_cons]
  · rw [words_append_cons isBlank_space, words_of_isWord isWord, List.singleton_append,
      List.headD_cons]

/-- No verb is a directive. -/
theorem directiveOf_eq_none (storable : IsStorable line) : directiveOf line = none := by
  obtain ⟨word, rest, rfl, isVerb, isTail, _⟩ := storable
  obtain ⟨verb, known, _⟩ := isVerb.ofKeyword_eq
  have apart : ∀ entry ∈ Verb.keywords, directiveKeywords.lookup entry.1 = none := by
    decide
  rw [directiveOf, words_headD isVerb.isWord isTail]
  exact apart _ (Verb.mem_keywords_of_ofKeyword known)

theorem takeWhile_eq {word rest : Text} (isWord : IsWord word) (isTail : IsTail rest) :
    (word ++ rest).takeWhile (· ≠ ' ') = word := by
  have unspaced : ∀ c ∈ word, decide (c ≠ ' ') = true := by
    intro c member
    rw [decide_eq_true_eq]
    exact isWord.ne_of_isBlank member isBlank_space
  rw [List.takeWhile_append_of_pos unspaced]
  rcases isTail with rfl | ⟨more, rfl⟩ <;> simp

theorem command_eq (storable : IsStorable line) : Expansion.command [] line = respaced line := by
  obtain ⟨word, rest, rfl, isVerb, isTail, _⟩ := storable
  obtain ⟨verb, known, replayed⟩ := isVerb.ofKeyword_eq
  have noPath : verb.takesPath = false := by
    revert replayed
    cases verb <;> decide
  -- Without definitions every token stands for itself.
  unfold Expansion.command
  simp only [takeWhile_eq isVerb.isWord isTail]
  rw [if_neg (by simp [Expansion.keywordTakesPath, known, noPath]), respaced]
  congr 1
  conv_rhs => rw [← List.map_id (tokens _)]
  rfl

theorem tokens_eq {word rest : Text} (isVerb : IsVerbWord word) (isTail : IsTail rest) :
    tokens (word ++ rest) = word :: tokens rest := by
  rcases isTail with rfl | ⟨more, rfl⟩
  · rw [List.append_nil, isVerb.tokens_eq]
    rfl
  · rw [tokens_append_cons isBlank_space, isVerb.tokens_eq, List.singleton_append,
      tokens_cons_of_isBlank isBlank_space]

theorem respaced (storable : IsStorable line) : IsStorable (respaced line) := by
  obtain ⟨word, rest, rfl, isVerb, isTail, free⟩ := storable
  rw [Script.respaced, tokens_eq isVerb isTail, join_cons]
  refine ⟨word, _, rfl, isVerb, isTail_join _, ?_⟩
  split
  · exact List.not_mem_nil
  · intro member
    rcases List.mem_cons.1 member with isSpace | inside
    · revert isSpace
      decide
    · rcases mem_join inside with isSpace | ⟨token, inTokens, inToken⟩
      · simp at isSpace
      · exact free (mem_of_mem_tokens inTokens inToken)

end IsStorable

theorem breaksAsSpaces_of_isWord {word : Text} (isWord : IsWord word) :
    breaksAsSpaces word = word := by
  apply map_of_unbroken
  intro c member
  have unbroken (blank : Char) (ends : isBlank blank = true) := isWord.ne_of_isBlank member ends
  rw [if_neg]
  simp [unbroken '\r' (by decide), unbroken '\n' (by decide), unbroken '\t' (by decide)]

theorem IsStorable.free {line : Text} (storable : IsStorable line) : ';' ∉ line := by
  obtain ⟨word, rest, rfl, isVerb, _, freeRest⟩ := storable
  rw [List.mem_append, not_or]
  exact ⟨isVerb.notMem ';' (by simp), freeRest⟩

theorem IsStorable.trim_breaksAsSpaces {line : Text} (storable : IsStorable line) :
    IsStorable (trim (breaksAsSpaces line)) := by
  obtain ⟨word, rest, rfl, isVerb, isTail, free⟩ := storable
  have split : breaksAsSpaces (word ++ rest) = word ++ breaksAsSpaces rest := by
    rw [breaksAsSpaces, List.map_append, ← breaksAsSpaces, ← breaksAsSpaces,
      breaksAsSpaces_of_isWord isVerb.isWord]
  rw [split, trim_append_of_isWord isVerb.isWord]
  refine ⟨word, _, rfl, isVerb, isTail_trimEnd ?_, fun member => ?_⟩
  · rcases isTail with rfl | ⟨more, rfl⟩
    · exact Or.inl rfl
    · exact Or.inr ⟨breaksAsSpaces more, rfl⟩
  · obtain ⟨c, inRest, same⟩ := List.mem_map.1 (mem_of_mem_trimEnd member)
    split at same
    · revert same
      decide
    · exact free (same ▸ inRest)

theorem isStorable_of_mem_logicalLines {lines : List Text}
    (storable : ∀ line ∈ lines, IsStorable line) {line : Text}
    (member : line ∈ logicalLines (written lines)) : IsStorable line := by
  obtain ⟨others, removed, storableOthers⟩ := removeComments_written storable
  rw [logicalLines, removed, breaksAsSpaces,
    statements_map_written breaksAsSpaces_eq_semicolon_iff (by decide)
      fun other inOthers => (storableOthers other inOthers).free] at member
  obtain ⟨other, inOthers, rfl⟩ := List.mem_map.1 (List.mem_filter.1 member).1
  exact (storableOthers other inOthers).trim_breaksAsSpaces

theorem Expansion.run_of_plain {lines : List Text} (plain : ∀ line ∈ lines, directiveOf line = none)
    (commands : List Text) :
    Expansion.run lines ⟨[], false, false, commands⟩ =
      (⟨[], false, false, (lines.map (Expansion.command [])).reverse ++ commands⟩, none) := by
  induction lines generalizing commands with
  | nil => rfl
  | cons line rest ih =>
    have emitted : Expansion.step line ⟨[], false, false, commands⟩ =
        .ok ⟨[], false, false, Expansion.command [] line :: commands⟩ := by
      rw [Expansion.step_eq, plain line List.mem_cons_self]
      rfl
    rw [Expansion.run, emitted]
    simp only
    rw [ih fun other member => plain other (List.mem_cons_of_mem line member)]
    simp

/-- Stored lines always have an expansion. -/
theorem expansion_written {lines : List Text} (storable : ∀ line ∈ lines, IsStorable line) :
    ∃ state, expansion (written lines) = (state, none) ∧
      state.commandsInOrder = survivors lines := by
  have storableLines (line : Text) (member : line ∈ logicalLines (written lines)) :=
    isStorable_of_mem_logicalLines storable member
  have ran := Expansion.run_of_plain
    (fun line member => (storableLines line member).directiveOf_eq_none) []
  refine ⟨_, ran, ?_⟩
  rw [Expansion.commandsInOrder, List.append_nil, List.reverse_reverse, survivors]
  exact List.map_congr_left fun line member => (storableLines line member).command_eq

theorem isStorable_of_mem_survivors {lines : List Text}
    (storable : ∀ line ∈ lines, IsStorable line) {command : Text}
    (member : command ∈ survivors lines) : IsStorable command := by
  obtain ⟨line, inLines, rfl⟩ := List.mem_map.1 member
  exact (isStorable_of_mem_logicalLines storable inLines).respaced

theorem trim_of_mem_survivors {lines : List Text} {command : Text}
    (member : command ∈ survivors lines) : trim command = command := by
  obtain ⟨line, _, rfl⟩ := List.mem_map.1 member
  exact trim_respaced line

theorem splitCommands_survivors (lines : List Text) :
    splitCommands (written (survivors lines)) = survivors lines := by
  apply splitCommands_written
  intro command member
  obtain ⟨line, inLines, rfl⟩ := List.mem_map.1 member
  exact isClean_respaced (isClean_logicalLines inLines)

theorem logicalLines_written {lines : List Text} (clean : ∀ line ∈ lines, IsClean line)
    (free : ¬ HoldsComment (written lines)) : logicalLines (written lines) = lines := by
  rw [logicalLines, removeComments_of_not_holdsComment free, statements_breaksAsSpaces_written clean]

/-- Without a comment, every line survives. -/
theorem survivors_of_not_holdsComment {lines : List Text}
    (clean : ∀ line ∈ lines, IsClean line) (free : ¬ HoldsComment (written lines)) :
    survivors lines = lines.map respaced := by
  rw [survivors, logicalLines_written clean free]

end AutomataShell.Script
