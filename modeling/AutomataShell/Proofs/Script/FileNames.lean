import AutomataShell.Proofs.Script.Grammar
import AutomataShell.Proofs.Script.Normal
import AutomataShell.Proofs.Script.Storage
import AutomataShell.Session.Basic

/-! File names in scripts. The verb of a line ends at any blank, but a script keeps the rest of the line
only behind a space. Behind any other blank a file name is taken apart like other arguments. -/

set_option autoImplicit false

namespace AutomataShell.Script

open Text

theorem exists_trimEnd_append (text : Text) :
    ∃ blanks, text = trimEnd text ++ blanks ∧ blanks.all isBlank = true := by
  induction text with
  | nil => exact ⟨[], rfl, rfl⟩
  | cons c rest ih =>
    obtain ⟨blanks, same, areBlank⟩ := ih
    rw [trimEnd]
    cases kept : trimEnd rest with
    | nil =>
      rw [kept, List.nil_append] at same
      cases blank : isBlank c with
      | true => exact ⟨c :: rest, rfl, by simp [blank, same, areBlank]⟩
      | false => exact ⟨rest, rfl, by rw [same, areBlank]⟩
    | cons d more =>
      refine ⟨blanks, ?_, areBlank⟩
      rw [kept] at same
      rw [List.cons_append, ← same]

theorem tokens_trim (text : Text) : tokens (trim text) = tokens text := by
  have ended (text : Text) : tokens (trimEnd text) = tokens text := by
    obtain ⟨blanks, same, areBlank⟩ := exists_trimEnd_append text
    conv_rhs => rw [same]
    cases blanks with
    | nil => rw [List.append_nil]
    | cons blank more =>
      rw [List.all_cons, Bool.and_eq_true] at areBlank
      have none : tokens more = [] := by
        rw [tokens_eq_nil_iff, squeeze_eq_nil_iff, areBlank.2]
      rw [tokens_append_cons areBlank.1, none, List.append_nil]
  rw [trim, ended, tokens_dropWhile]

theorem isSound_of_preprocess {script expanded : Text} (expands : preprocess script = .ok expanded) :
    IsSound (logicalLines script) := by
  apply (isSound_or_firstViolation _).resolve_right
  rintro ⟨line, why, violation⟩
  have fault := (Expansion.agrees_start.run_fault_iff isSound_nil (logicalLines script) why).2
    (.inl ⟨line, violation⟩)
  rw [(preprocess_eq_error_iff script why).2 fault] at expands
  cases expands

/-- No line of a sound script renames a verb. -/
theorem standIn_of_ofKeyword {before after : List Text} {line word : Text}
    (sound : IsSound (before ++ line :: after))
    (known : (Verb.ofKeyword (lower word)).isSome = true) : standIn before word = word := by
  unfold standIn
  cases renamed : (renamings before).reverse.lookup word with
  | none => rfl
  | some new =>
    obtain ⟨_, _, split, _⟩ := List.lookup_eq_some_iff.1 renamed
    have inRenamings : (word, new) ∈ renamings before := by
      rw [← List.mem_reverse, split]
      simp
    obtain ⟨⟨earlier, other⟩, inPlaces, renames⟩ := List.mem_filterMap.1 inRenamings
    obtain ⟨isPlaced, inForce⟩ := List.mem_filter.1 inPlaces
    obtain ⟨_, rest, rfl, rfl⟩ := mem_placed_iff.1 isPlaced
    simp only at inForce renames
    unfold renamingOf at renames
    split at renames
    · rename_i old new isDirective operands
      cases renames
      rw [List.append_assoc, List.cons_append] at sound
      exact absurd (Violation.keyword isDirective (by simpa using inForce) operands
        ((isSome_ofKeyword_iff _).1 known)) (sound earlier other _ rfl _)
    · cases renames

/-- A line without blanks at its ends is its first word and what follows that, from a blank on. -/
theorem exists_headWord {line : Text} (trimmed : trim line = line) :
    ∃ word rest, line = word ++ rest ∧ headWord line = (word, trim rest) ∧
      line.dropWhile (fun c => !isBlank c) = rest ∧
        ∀ blank more, rest = blank :: more → isBlank blank = true := by
  have start : line.dropWhile isBlank = line := by
    have skipped := dropWhile_isBlank_trimEnd (List.dropWhile_idempotent isBlank line)
    rw [← trim, trimmed] at skipped
    exact skipped
  refine ⟨_, _, List.takeWhile_append_dropWhile.symm, ?_, rfl, fun blank more begins => ?_⟩
  · rw [headWord, start]
  · have stops := List.head?_dropWhile_not (fun c => !isBlank c) line
    rw [begins] at stops
    simpa using stops

/-- No line of a verb is a directive. -/
theorem directiveOf_eq_none_of_ofKeyword {line : Text} {verb : Verb} (trimmed : trim line = line)
    (known : Verb.ofKeyword (lower (headWord line).1) = some verb) : directiveOf line = none := by
  obtain ⟨word, rest, whole, head, _, begins⟩ := exists_headWord trimmed
  rw [head] at known
  have isWord := Verb.isWord_of_ofKeyword known
  have first : (words line).headD [] = word := by
    rw [whole]
    rcases rest with _ | ⟨blank, more⟩
    · rw [List.append_nil, words_of_isWord isWord, List.headD_cons]
    · rw [words_append_cons (begins blank more rfl), words_of_isWord isWord, List.singleton_append,
        List.headD_cons]
  have apart : ∀ entry ∈ Verb.keywords, directiveKeywords.lookup entry.1 = none := by
    decide
  rw [directiveOf, first]
  exact apart _ (Verb.mem_keywords_of_ofKeyword known)

theorem not_all_isBlank_of_mem_logicalLines {script line : Text}
    (member : line ∈ logicalLines script) : script.all isBlank = false := by
  rw [← Bool.not_eq_true]
  intro blank
  have none : squeeze (breaksAsSpaces (removeComments script)) = [] := by
    rw [squeeze_breaksAsSpaces, ← List.sublist_nil, ← (squeeze_eq_nil_iff script).2 blank]
    exact (removeComments_sublist script).filter _
  obtain ⟨piece, inPieces, rfl⟩ := List.mem_map.1 (List.mem_filter.1 member).1
  -- The piece would be blank, and no blank piece is a line.
  have blankPiece : piece.all isBlank = true := by
    rw [List.all_eq_true]
    intro c inPiece
    by_contra solid
    have kept : c ∈ squeeze (breaksAsSpaces (removeComments script)) :=
      List.mem_filter.2 ⟨mem_of_mem_pieces inPieces inPiece, by simpa using solid⟩
    rw [none] at kept
    cases kept
  exact statements_ne_nil member ((trim_eq_nil_iff piece).2 blankPiece)

section

variable {before after : List Text} {line word : Text} {verb : Verb}

/-- Behind a space the rest of the line stays as it is. -/
theorem keywordOf_entry_of_isTail (isFile : lower word = "import" ∨ lower word = "export")
    {rest : Text} (isTail : IsTail rest) (before : List Text) :
    keywordOf (entry before (word ++ rest)) = (lower word, trim rest) := by
  have isWord := isWord_of_takesPath isFile
  rw [entry_of_takesPath isFile isTail, keywordOf]
  split
  · rename_i blank
    have alone := headWord_append isWord (.inl rfl)
    rw [List.append_nil] at alone
    rw [alone, (trim_eq_nil_iff rest).2 blank]
    rfl
  · have spaced : word ++ " " ++ trim rest = word ++ ' ' :: trim rest := by simp
    rw [spaced, headWord_append isWord (.inr ⟨_, rfl⟩), trim_cons_of_isBlank isBlank_space,
      trim_trim]

/-- Behind any other blank the verb is not seen, and the line is rebuilt from its tokens. -/
theorem keywordOf_entry_of_blank (known : Verb.ofKeyword (lower word) = some verb)
    (unrenamed : standIn before word = word) {blank : Char} (ends : isBlank blank = true)
    (noSpace : blank ≠ ' ') (more : Text) :
    keywordOf (entry before (word ++ blank :: more)) =
      (lower word, join " " ((tokens more).map (standIn before))) := by
  have isWord := Verb.isWord_of_ofKeyword known
  have unspaced : ∀ c ∈ word, decide (c ≠ ' ') = true := by
    intro c member
    simpa using isWord.ne_of_isBlank member isBlank_space
  have taken : (word ++ blank :: more).takeWhile (· ≠ ' ') =
      word ++ blank :: more.takeWhile (· ≠ ' ') := by
    rw [List.takeWhile_append_of_pos unspaced, List.takeWhile_cons_of_pos (by simpa using noSpace)]
  have unseen : ¬ (lower ((word ++ blank :: more).takeWhile (· ≠ ' ')) = "import" ∨
      lower ((word ++ blank :: more).takeWhile (· ≠ ' ')) = "export") := by
    rw [taken]
    intro isFile
    have solid := (isWord_of_takesPath isFile).2 blank (by simp)
    rw [ends] at solid
    cases solid
  have rebuilt : entry before (word ++ blank :: more) =
      join " " (word :: (tokens more).map (standIn before)) := by
    unfold entry
    simp only [if_neg unseen]
    rw [tokens_append_cons ends, tokens_of_ofKeyword known, List.singleton_append, List.map_cons,
      unrenamed]
  rw [rebuilt, keywordOf, headWord_join]
  intro other member
  rcases List.mem_cons.1 member with rfl | inRest
  · exact isWord
  · obtain ⟨token, inTokens, rfl⟩ := List.mem_map.1 inRest
    rcases standIn_eq_or_mem before token with same | ⟨earlier, _, inWords⟩
    · rw [same]
      exact isWord_of_mem_tokens inTokens
    · exact isWord_of_mem_words inWords

/-- What is handed on behind the verb of a line, as the command that the line becomes. -/
theorem keywordOf_entry (sound : IsSound (before ++ line :: after))
    (clean : ∀ other ∈ before ++ line :: after, IsClean other)
    (known : Verb.ofKeyword (lower (headWord line).1) = some verb)
    (takesPath : verb.takesPath = true) :
    keywordOf (trim (entry before line)) =
      (lower (headWord line).1,
        if (line.dropWhile fun c => !isBlank c).head? = some ' ' then
          (headWord line).2
        else
          join " " ((tokens (headWord line).2).map (standIn before))) := by
  have cleanLine : IsClean line := clean line (by simp)
  have kept := isClean_entry (fun earlier member => clean earlier (List.mem_append_left _ member))
    cleanLine
  -- The line is its first word and a rest that begins with a blank, if there is one.
  obtain ⟨word, rest, whole, head, remains, begins⟩ := exists_headWord cleanLine.trimmed
  rw [kept.trimmed, remains, head]
  rw [head] at known
  have isFile : lower word = "import" ∨ lower word = "export" := by
    rw [← keywordTakesPath_iff, Expansion.keywordTakesPath, known]
    exact takesPath
  subst whole
  rcases rest with _ | ⟨blank, more⟩
  · rw [keywordOf_entry_of_isTail isFile (.inl rfl)]
    rfl
  · by_cases isSpace : blank = ' '
    · subst isSpace
      rw [keywordOf_entry_of_isTail isFile (.inr ⟨more, rfl⟩), List.head?_cons, if_pos rfl]
    · have ends := begins blank more rfl
      have unrenamed : standIn before word = word :=
        standIn_of_ofKeyword sound (by rw [known]; rfl)
      rw [keywordOf_entry_of_blank known unrenamed ends isSpace, List.head?_cons,
        if_neg (by simpa using isSpace), tokens_trim, tokens_cons_of_isBlank ends]

end

end AutomataShell.Script
