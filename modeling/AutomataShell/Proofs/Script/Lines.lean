import AutomataShell.Proofs.Script.Agreement
import AutomataShell.Proofs.Script.Spacing
import AutomataShell.Proofs.Text.Pieces

/-! Lines between semicolons: what a script holds as a line comes back as that line when the script is
split, and an expanded script is split into its commands. -/

set_option autoImplicit false

namespace AutomataShell.Script

open Text

/-- A line that a split leaves as it is. -/
structure IsClean (line : Text) : Prop where
  nonempty : line ≠ []
  trimmed : trim line = line
  unbroken : ∀ c ∈ line, c ≠ ';' ∧ c ≠ '\r' ∧ c ≠ '\n' ∧ c ≠ '\t'

theorem statements_append_mark (left right : Text) :
    statements (left ++ ';' :: right) = statements left ++ statements right := by
  simp [statements, pieces_append_mark]

theorem statements_append_cons {left : Text} (free : ';' ∉ left) (right : Text) :
    statements (left ++ ';' :: right) =
      (if trim left = [] then [] else [trim left]) ++ statements right := by
  have alone : statements left = if trim left = [] then [] else [trim left] := by
    rw [statements, pieces_of_notMem free]
    cases kept : trim left <;> simp [kept]
  rw [statements_append_mark, alone]

theorem statements_cons_of_isBlank {c : Char} (blank : isBlank c = true) (text : Text) :
    statements (c :: text) = statements text := by
  have other : c ≠ ';' := by
    rintro rfl
    revert blank
    decide
  obtain ⟨piece, more, inText, joined⟩ := pieces_cons_of_ne other text
  rw [statements, joined, List.map_cons, trim_cons_of_isBlank blank, ← List.map_cons, ← inText,
    statements]

/-- The lines of a saved script, each taken as its characters are mapped. -/
theorem statements_map_written {change : Char → Char} (marks : ∀ c, change c = ';' ↔ c = ';')
    (blank : isBlank (change '\n') = true) {lines : List Text}
    (free : ∀ line ∈ lines, ';' ∉ line) :
    statements ((written lines).map change) =
      (lines.map fun line => trim (line.map change)).filter fun line => !line.isEmpty := by
  induction lines with
  | nil => rfl
  | cons line rest ih =>
    have freeLine : ';' ∉ line.map change := by
      intro member
      obtain ⟨c, inLine, same⟩ := List.mem_map.1 member
      exact free line List.mem_cons_self ((marks c).1 same ▸ inLine)
    -- The break after the semicolon starts the next line, where it is trimmed away.
    have split : (written (line :: rest)).map change =
        line.map change ++ ';' :: change '\n' :: (written rest).map change := by
      have mark : change ';' = ';' := (marks ';').2 rfl
      simp [written, mark]
    rw [split, statements_append_cons freeLine, statements_cons_of_isBlank blank,
      ih fun other member => free other (List.mem_cons_of_mem line member), List.map_cons,
      List.filter_cons]
    cases trim (line.map change) <;> simp

theorem return_notMem_written {lines : List Text} (clean : ∀ line ∈ lines, IsClean line) :
    '\r' ∉ written lines := by
  intro member
  obtain ⟨line, inLines, inside⟩ := List.mem_flatMap.1 member
  rcases List.mem_append.1 inside with inLine | inEnd
  · exact ((clean line inLines).unbroken '\r' inLine).2.1 rfl
  · revert inEnd
    decide

theorem map_of_unbroken {change : Char → Char} {line : Text}
    (unbroken : ∀ c ∈ line, change c = c) : line.map change = line := by
  conv_rhs => rw [← List.map_id line]
  exact List.map_congr_left unbroken

/-- Clean lines come back from a script that holds nothing else. -/
theorem statements_map_written_of_clean {change : Char → Char}
    (marks : ∀ c, change c = ';' ↔ c = ';') (blank : isBlank (change '\n') = true)
    (keeps : ∀ c, c ≠ '\r' → c ≠ '\n' → c ≠ '\t' → change c = c) {lines : List Text}
    (clean : ∀ line ∈ lines, IsClean line) : statements ((written lines).map change) = lines := by
  have kept : ∀ line ∈ lines, trim (line.map change) = line := by
    intro line member
    rw [map_of_unbroken, (clean line member).trimmed]
    intro c inLine
    obtain ⟨_, noReturn, noFeed, noTab⟩ := (clean line member).unbroken c inLine
    exact keeps c noReturn noFeed noTab
  have whole : (lines.map fun line => trim (line.map change)) = lines := by
    conv_rhs => rw [← List.map_id lines]
    exact List.map_congr_left kept
  rw [statements_map_written marks blank, whole, List.filter_eq_self]
  · exact fun line member => by simp [(clean line member).nonempty]
  · exact fun line member inside => ((clean line member).unbroken ';' inside).1 rfl

theorem splitCommands_written {lines : List Text} (clean : ∀ line ∈ lines, IsClean line) :
    splitCommands (written lines) = lines := by
  refine statements_map_written_of_clean (fun c => ?_) (by decide) (fun c _ noFeed noTab => ?_) clean
  · split
    · rename_i broken
      rcases broken with rfl | rfl <;> decide
    · rfl
  · rw [if_neg (by simp [noFeed, noTab])]

theorem breaksAsSpaces_eq_semicolon_iff (c : Char) :
    (if c = '\r' ∨ c = '\n' ∨ c = '\t' then ' ' else c) = ';' ↔ c = ';' := by
  split
  · rename_i broken
    rcases broken with rfl | rfl | rfl <;> decide
  · rfl

theorem squeeze_breaksAsSpaces (text : Text) : squeeze (breaksAsSpaces text) = squeeze text := by
  induction text with
  | nil => rfl
  | cons c rest ih =>
    rw [breaksAsSpaces, List.map_cons, ← breaksAsSpaces, squeeze_cons, squeeze_cons, ih]
    split
    · rename_i broken
      rcases broken with rfl | rfl | rfl <;> rfl
    · rfl

theorem statements_breaksAsSpaces_written {lines : List Text}
    (clean : ∀ line ∈ lines, IsClean line) : statements (breaksAsSpaces (written lines)) = lines := by
  refine statements_map_written_of_clean breaksAsSpaces_eq_semicolon_iff (by decide) ?_ clean
  intro c noReturn noFeed noTab
  rw [if_neg (by simp [noReturn, noFeed, noTab])]

theorem isClean_logicalLines {script line : Text} (member : line ∈ logicalLines script) :
    IsClean line := by
  have nonempty := statements_ne_nil member
  have free := semicolon_notMem_statements member
  obtain ⟨piece, inPieces, rfl⟩ := List.mem_map.1 (List.mem_filter.1 member).1
  refine ⟨nonempty, trim_trim piece, fun c inLine => ⟨fun same => free (same ▸ inLine), ?_⟩⟩
  -- What is left of the script has no breaks, and a piece holds nothing else.
  have inScript : c ∈ breaksAsSpaces (removeComments script) :=
    mem_of_mem_pieces inPieces (mem_of_mem_trim inLine)
  obtain ⟨d, _, rfl⟩ := List.mem_map.1 inScript
  split
  · decide
  · rename_i unbroken
    simpa using unbroken

theorem tokens_ne_nil {line : Text} (clean : IsClean line) : tokens line ≠ [] := by
  rw [ne_eq, tokens_eq_nil_iff, squeeze_eq_nil_iff, ← trim_eq_nil_iff, clean.trimmed]
  exact clean.nonempty

theorem isClean_join {list : List Text} (some : list ≠ []) (areWords : ∀ word ∈ list, IsWord word)
    (free : ∀ word ∈ list, ';' ∉ word) : IsClean (join " " list) where
  nonempty := mt (join_eq_nil_iff areWords).1 some
  trimmed := trim_join areWords
  unbroken c member := by
    rcases mem_join member with isSpace | ⟨word, inList, inside⟩
    · have isSpace : c = ' ' := by simpa using isSpace
      rw [isSpace]
      decide
    · have unbroken (blank : Char) (ends : isBlank blank = true) : c ≠ blank :=
        (areWords word inList).ne_of_isBlank inside ends
      refine ⟨fun same => free word inList (same ▸ inside), ?_, ?_, ?_⟩
      · exact unbroken '\r' (by decide)
      · exact unbroken '\n' (by decide)
      · exact unbroken '\t' (by decide)

theorem mem_of_mem_placed {before lines : List Text} {place : List Text × Text}
    (member : place ∈ placed before lines) :
    place.2 ∈ lines ∧ ∀ line ∈ place.1, line ∈ before ∨ line ∈ lines := by
  induction lines generalizing before with
  | nil => cases member
  | cons line rest ih =>
    rcases List.mem_cons.1 member with rfl | inRest
    · exact ⟨List.mem_cons_self, fun other inBefore => Or.inl inBefore⟩
    · obtain ⟨inLines, earlier⟩ := ih inRest
      refine ⟨List.mem_cons_of_mem line inLines, fun other inPlace => ?_⟩
      rcases earlier other inPlace with inBefore | inOthers
      · rcases List.mem_append.1 inBefore with inBefore | isLine
        · exact Or.inl inBefore
        · exact Or.inr (List.mem_singleton.1 isLine ▸ List.mem_cons_self)
      · exact Or.inr (List.mem_cons_of_mem line inOthers)

/-- A token that is replaced was renamed by a line before. -/
theorem standIn_eq_or_renamingOf (before : List Text) (token : Text) :
    standIn before token = token ∨
      ∃ line ∈ before, renamingOf line = some (token, standIn before token) := by
  unfold standIn
  cases renamed : (renamings before).reverse.lookup token with
  | none => exact Or.inl rfl
  | some new =>
    apply Or.inr
    obtain ⟨_, _, split, _⟩ := List.lookup_eq_some_iff.1 renamed
    have inRenamings : (token, new) ∈ renamings before := by
      rw [← List.mem_reverse, split]
      simp
    obtain ⟨place, inPlaces, renames⟩ := List.mem_filterMap.1 inRenamings
    exact ⟨place.2, (mem_of_mem_placed (List.mem_filter.1 inPlaces).1).1, renames⟩

theorem mem_words_of_renamingOf {line old new : Text} (renames : renamingOf line = some (old, new)) :
    new ∈ words line := by
  unfold renamingOf at renames
  split at renames
  · rename_i first second _ operands
    cases renames
    have inOperands : new ∈ operandsOf line := by
      simp [operands]
    exact List.mem_of_mem_tail inOperands
  · cases renames

/-- A replacement is a word of a line before. -/
theorem standIn_eq_or_mem (before : List Text) (token : Text) :
    standIn before token = token ∨ ∃ line ∈ before, standIn before token ∈ words line := by
  rcases standIn_eq_or_renamingOf before token with same | ⟨line, inBefore, renames⟩
  · exact Or.inl same
  · exact Or.inr ⟨line, inBefore, mem_words_of_renamingOf renames⟩

/-- A line becomes a command in one of two ways: a file name is kept, and all else is put together from
tokens. -/
theorem entry_cases (before : List Text) (line : Text) :
    (∃ word rest, line = word ++ rest ∧ (lower word = "import" ∨ lower word = "export") ∧
      (rest = [] ∨ ∃ more, rest = ' ' :: more) ∧
      entry before line = if rest.all isBlank then word else word ++ " " ++ trim rest) ∨
    entry before line = join " " ((tokens line).map (standIn before)) := by
  by_cases takesPath : lower (line.takeWhile (· ≠ ' ')) = "import" ∨
      lower (line.takeWhile (· ≠ ' ')) = "export"
  · refine Or.inl ⟨line.takeWhile (· ≠ ' '), line.dropWhile (· ≠ ' '), ?_, takesPath, ?_, ?_⟩
    · exact List.takeWhile_append_dropWhile.symm
    · cases remains : line.dropWhile (· ≠ ' ') with
      | nil => exact Or.inl rfl
      | cons c more =>
        have stops := List.head?_dropWhile_not (· ≠ ' ') line
        rw [remains, List.head?_cons] at stops
        exact Or.inr ⟨more, by simpa using stops⟩
    · unfold entry
      simp only [if_pos takesPath]
  · apply Or.inr
    unfold entry
    simp only [if_neg takesPath]

theorem isClean_entry {before : List Text} {line : Text}
    (cleanBefore : ∀ earlier ∈ before, IsClean earlier) (clean : IsClean line) :
    IsClean (entry before line) := by
  rcases entry_cases before line with ⟨word, rest, rfl, takesPath, _, same⟩ | same
  · have isWord := isWord_of_takesPath takesPath
    rw [same]
    split
    · refine ⟨isWord.1, ?_, fun c member => clean.unbroken c (List.mem_append_left rest member)⟩
      have alone := trim_append_of_isWord isWord []
      simpa [trimEnd] using alone
    · rename_i solid
      have kept : trim rest ≠ [] := mt (trim_eq_nil_iff _).1 solid
      refine ⟨by simp, ?_, fun c member => ?_⟩
      · rw [List.append_assoc, trim_append_of_isWord isWord, trimEnd_append, trimEnd_trim,
          if_neg kept]
      · simp only [List.mem_append] at member
        rcases member with (inWord | isSpace) | inRest
        · exact clean.unbroken c (List.mem_append_left rest inWord)
        · have isSpace : c = ' ' := by simpa using isSpace
          rw [isSpace]
          decide
        · exact clean.unbroken c (List.mem_append_right word (mem_of_mem_trim inRest))
  · have standsIn : ∀ word ∈ (tokens line).map (standIn before),
        IsWord word ∧ ∃ other, IsClean other ∧ ∀ c ∈ word, c ∈ other := by
      intro word member
      obtain ⟨token, inTokens, rfl⟩ := List.mem_map.1 member
      rcases standIn_eq_or_mem before token with same | ⟨earlier, inBefore, inWords⟩
      · rw [same]
        exact ⟨isWord_of_mem_tokens inTokens, line, clean, fun c => mem_of_mem_tokens inTokens⟩
      · exact ⟨isWord_of_mem_words inWords, earlier, cleanBefore earlier inBefore,
          fun c => mem_of_mem_words inWords⟩
    -- Blanks part the words again, and no line of the script holds a semicolon.
    rw [same]
    refine isClean_join ?_ (fun word member => (standsIn word member).1) fun word member inside => ?_
    · rw [ne_eq, List.map_eq_nil_iff]
      exact tokens_ne_nil clean
    · obtain ⟨_, other, cleanOther, inOther⟩ := standsIn word member
      exact (cleanOther.unbroken ';' (inOther ';' inside)).1 rfl

theorem isClean_respaced {line : Text} (clean : IsClean line) : IsClean (respaced line) :=
  isClean_join (tokens_ne_nil clean) (fun _ => isWord_of_mem_tokens) fun _ inTokens inside =>
    (clean.unbroken ';' (mem_of_mem_tokens inTokens inside)).1 rfl

theorem isClean_of_mem_entries {lines : List Text} (clean : ∀ line ∈ lines, IsClean line)
    {command : Text} (member : command ∈ entries lines) : IsClean command := by
  obtain ⟨place, inForce, rfl⟩ := List.mem_map.1 member
  obtain ⟨inLines, earlier⟩ := mem_of_mem_placed
    (List.mem_filter.1 (List.mem_filter.1 inForce).1).1
  refine isClean_entry (fun other inPlace => ?_) (clean place.2 inLines)
  rcases earlier other inPlace with inNone | inOthers
  · cases inNone
  · exact clean other inOthers

end AutomataShell.Script
