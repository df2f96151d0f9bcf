import AutomataShell.Proofs.Script.Meaning
import AutomataShell.Proofs.Script.Normal

/-! Which expanded scripts expansion keeps. A comment or a directive that an expanded script holds is
lost when it is expanded again, and two counts show that nothing makes up for it: that of the lines and
that of the stars. -/

set_option autoImplicit false

namespace AutomataShell.Script

open Text

/-- A text with a directive among the lines that end at a semicolon. -/
def HoldsDirective (text : Text) : Prop :=
  ∃ line ∈ (pieces ';' text).dropLast, directiveOf line ≠ none

theorem directiveOf_cons_of_isBlank {c : Char} (blank : isBlank c = true) (line : Text) :
    directiveOf (c :: line) = directiveOf line := by
  rw [directiveOf, words_cons_of_isBlank blank, directiveOf]

theorem map_directiveOf_pieces_written {lines : List Text} (free : ∀ line ∈ lines, ';' ∉ line) :
    (pieces ';' (written lines)).dropLast.map directiveOf = lines.map directiveOf := by
  induction lines with
  | nil => rfl
  | cons line rest ih =>
    have others := ih fun other member => free other (List.mem_cons_of_mem line member)
    have broken : '\n' ≠ ';' := by decide
    obtain ⟨piece, more, inRest, joined⟩ := pieces_cons_of_ne broken (written rest)
    have blank : isBlank '\n' = true := by decide
    rw [inRest] at others
    -- The break after a line is a blank at the start of the next one.
    rw [written_cons, pieces_append_cons (free line List.mem_cons_self), joined, List.map_cons,
      ← others, List.dropLast_cons_of_ne_nil (List.cons_ne_nil _ _), List.map_cons]
    cases more with
    | nil => rfl
    | cons next more => simp [directiveOf_cons_of_isBlank blank]

theorem holdsDirective_written_iff {lines : List Text} (free : ∀ line ∈ lines, ';' ∉ line) :
    HoldsDirective (written lines) ↔ ∃ line ∈ lines, directiveOf line ≠ none := by
  have same := map_directiveOf_pieces_written free
  have exists_map (list : List Text) : (∃ line ∈ list, directiveOf line ≠ none) ↔
      ∃ directive ∈ list.map directiveOf, directive ≠ none := by
    simp
  rw [HoldsDirective, exists_map, same, ← exists_map]

theorem length_statements_le (text : Text) : (statements text).length ≤ text.count ';' + 1 := by
  rw [← length_pieces, statements]
  exact (List.length_filter_le _ _).trans_eq (List.length_map _)

theorem count_breaksAsSpaces {c : Char} (solid : isBlank c = false) (text : Text) :
    (breaksAsSpaces text).count c = text.count c := by
  rw [← count_squeeze solid, squeeze_breaksAsSpaces, count_squeeze solid]

theorem length_logicalLines_le (text : Text) :
    (logicalLines (text ++ [';', '\n'])).length ≤ text.count ';' + 1 := by
  have blank : statements [' '] = [] := by decide
  have ended : breaksAsSpaces (removeComments text ++ [';', '\n']) =
      breaksAsSpaces (removeComments text) ++ ';' :: [' '] := by
    simp [breaksAsSpaces]
  rw [logicalLines, removeComments_append_end, ended, statements_append_mark, blank, List.append_nil]
  refine (length_statements_le _).trans (Nat.succ_le_succ ?_)
  rw [count_breaksAsSpaces (by decide)]
  exact (removeComments_sublist text).count_le ';'

theorem count_semicolon_written {lines : List Text} (free : ∀ line ∈ lines, ';' ∉ line) :
    (written lines).count ';' = lines.length := by
  induction lines with
  | nil => rfl
  | cons line rest ih =>
    rw [written_cons, List.count_append, List.count_eq_zero.2 (free line List.mem_cons_self)]
    simp [ih fun other member => free other (List.mem_cons_of_mem line member)]

/-- Read as a script, commands are no more lines than they are. -/
theorem length_logicalLines_written_le {lines : List Text} (free : ∀ line ∈ lines, ';' ∉ line) :
    (logicalLines (written lines)).length ≤ lines.length := by
  rcases List.eq_nil_or_concat lines with rfl | ⟨init, last, rfl⟩
  · simp [logicalLines, removeComments, statements, written, breaksAsSpaces, pieces, trim, trimEnd]
  · rw [List.concat_eq_append] at free ⊢
    have ended : written (init ++ [last]) = (written init ++ last) ++ [';', '\n'] := by
      simp [written]
    have count := count_semicolon_written fun line member => free line (List.mem_append_left _ member)
    have none : last.count ';' = 0 := List.count_eq_zero.2 (free last (by simp))
    have bound := length_logicalLines_le (written init ++ last)
    rw [List.count_append, count, none] at bound
    rw [ended, List.length_append]
    exact bound

theorem length_entries_le (lines : List Text) :
    (entries lines).length ≤ (lines.filter fun line => directiveOf line = none).length := by
  induction lines using List.reverseRecOn with
  | nil => decide
  | append_singleton before line ih =>
    rw [entries_concat, List.filter_append, List.length_append, List.length_append]
    refine Nat.add_le_add ih ?_
    by_cases plain : directiveOf line = none
    · split <;> simp [plain]
    · simp [plain]

/-- Where no line is lost, none is a directive. -/
theorem directiveOf_eq_none_of_length_le {lines : List Text}
    (kept : lines.length ≤ (entries lines).length) {line : Text} (member : line ∈ lines) :
    directiveOf line = none := by
  have shorter := List.length_filter_le (fun line => decide (directiveOf line = none)) lines
  have all := List.length_filter_eq_length_iff.1
    (Nat.le_antisymm shorter (kept.trans (length_entries_le lines)))
  exact of_decide_eq_true (all line member)

/-- Without renamings, only the blanks of a line change. -/
theorem squeeze_entry_nil (line : Text) : squeeze (entry [] line) = squeeze line := by
  rcases entry_cases [] line with ⟨word, rest, rfl, _, _, same⟩ | same
  · rw [same, squeeze_append]
    split
    · rename_i blank
      rw [(squeeze_eq_nil_iff rest).2 blank, List.append_nil]
    · have space : squeeze (" " : Text) = [] := by decide
      rw [squeeze_append, squeeze_append, squeeze_trim, space, List.append_nil]
  · rw [same, standIn_nil, List.map_id]
    exact squeeze_respaced line

theorem squeeze_flatten_map {change : Text → Text}
    (keeps : ∀ line, squeeze (change line) = squeeze line) (lines : List Text) :
    squeeze (lines.map change).flatten = squeeze lines.flatten := by
  induction lines with
  | nil => rfl
  | cons line rest ih =>
    rw [List.map_cons, List.flatten_cons, List.flatten_cons, squeeze_append, squeeze_append, keeps, ih]

theorem squeeze_flatten_statements (text : Text) :
    squeeze (statements text).flatten = squeeze (text.filter (· ≠ ';')) := by
  rw [statements, List.flatten_filter_not_isEmpty, squeeze_flatten_map squeeze_trim, flatten_pieces]

section
variable {c : Char}

theorem count_written (solid : isBlank c = false) (other : c ≠ ';') (lines : List Text) :
    (written lines).count c = lines.flatten.count c := by
  have unbroken : c ≠ '\n' := by
    rintro rfl
    revert solid
    decide
  induction lines with
  | nil => rfl
  | cons line rest ih =>
    rw [written_cons, List.flatten_cons, List.count_append, List.count_append,
      List.count_cons_of_ne other.symm, List.count_cons_of_ne unbroken.symm, ih]

/-- Without directives, an expansion keeps what stands outside comments. -/
theorem count_written_map_entry (solid : isBlank c = false) (other : c ≠ ';') (script : Text) :
    (written ((logicalLines script).map (entry []))).count c = (removeComments script).count c := by
  calc (written ((logicalLines script).map (entry []))).count c
      = (squeeze ((logicalLines script).map (entry [])).flatten).count c := by
        rw [count_written solid other, count_squeeze solid]
    _ = (squeeze (logicalLines script).flatten).count c := by
        rw [squeeze_flatten_map squeeze_entry_nil]
    _ = ((breaksAsSpaces (removeComments script)).filter (· ≠ ';')).count c := by
        rw [logicalLines, squeeze_flatten_statements, count_squeeze solid]
    _ = (removeComments script).count c := by
        rw [List.count_filter (by simp [other]), count_breaksAsSpaces solid]

end

theorem written_injective {first second : List Text} (cleanFirst : ∀ line ∈ first, IsClean line)
    (cleanSecond : ∀ line ∈ second, IsClean line) (same : written first = written second) :
    first = second := by
  rw [← statements_breaksAsSpaces_written cleanFirst, same,
    statements_breaksAsSpaces_written cleanSecond]

theorem preprocess_of_plain {script : Text}
    (plain : ∀ line ∈ logicalLines script, directiveOf line = none) :
    preprocess script = .ok (written ((logicalLines script).map (entry []))) := by
  have ran := Expansion.run_of_plain plain []
  have sameCommands : Expansion.command [] = entry [] :=
    funext fun line => command_eq_entry (fun _ => rfl) line
  rw [preprocess, expand, expansion, Expansion.start, ran, sameCommands]
  simp [Except.map, Expansion.commandsInOrder]

theorem written_fixed_iff {commands : List Text} (clean : ∀ command ∈ commands, IsClean command)
    (settled : ∀ command ∈ commands, entry [] command = command) :
    preprocess (written commands) = .ok (written commands) ↔
      ¬ HoldsComment (written commands) ∧ ¬ HoldsDirective (written commands) := by
  have free : ∀ command ∈ commands, ';' ∉ command :=
    fun command member inside => ((clean command member).unbroken ';' inside).1 rfl
  rw [holdsDirective_written_iff free]
  constructor
  · intro fixed
    have same := written_injective clean
      (fun _ => isClean_of_mem_entries fun _ => isClean_logicalLines)
      (expand_of_preprocess fixed).2
    -- As many commands come out as lines go in, so no line is a directive.
    have noDirective : ∀ line ∈ logicalLines (written commands), directiveOf line = none :=
      fun line => directiveOf_eq_none_of_length_le (same ▸ length_logicalLines_written_le free)
    -- Then as many stars come out as stand outside comments.
    have noComment : ¬ HoldsComment (written commands) := by
      intro held
      have fewer := count_star_removeComments_lt held
      rw [preprocess_of_plain noDirective] at fixed
      rw [← count_written_map_entry (by decide) (by decide), Except.ok.inj fixed] at fewer
      exact Nat.lt_irrefl _ fewer
    rw [logicalLines_written clean noComment] at noDirective
    exact ⟨noComment, fun ⟨command, member, isDirective⟩ => isDirective (noDirective command member)⟩
  · rintro ⟨noComment, noDirective⟩
    have lines := logicalLines_written clean noComment
    have plain : ∀ line ∈ logicalLines (written commands), directiveOf line = none := by
      rw [lines]
      exact fun command member => by_contra fun isDirective =>
        noDirective ⟨command, member, isDirective⟩
    rw [preprocess_of_plain plain, lines, List.map_congr_left settled, List.map_id']

/-- Expanding an expanded script again gives it back if and only if it holds neither a comment nor a
directive, unless a renaming has put a comma, a colon or an arrow into a token. -/
theorem preprocess_fixed_iff {script expanded : Text}
    (plain : ∀ line ∈ logicalLines script, ∀ old new, renamingOf line = some (old, new) → IsPlain new)
    (succeeded : preprocess script = .ok expanded) :
    preprocess expanded = .ok expanded ↔ ¬ HoldsComment expanded ∧ ¬ HoldsDirective expanded := by
  obtain ⟨_, rfl⟩ := expand_of_preprocess succeeded
  exact written_fixed_iff (fun _ => isClean_of_mem_entries fun _ => isClean_logicalLines)
    fun _ => entry_of_mem_entries plain

/-- A keyword that a colon follows is one of a directive only after the expansion has parted them. -/
theorem not_fixed_of_split_directive :
    preprocess "#namedef p q;#define:p" = .ok "#define : q;\n" ∧
      preprocess "#define : q;\n" ≠ .ok "#define : q;\n" := by
  have renamed : (logicalLines "#namedef p q;#define:p").filterMap renamingOf = [(['p'], ['q'])] := by
    decide +kernel
  have plain : ∀ line ∈ logicalLines "#namedef p q;#define:p", ∀ old new,
      renamingOf line = some (old, new) → IsPlain new := by
    intro line member old new isRenaming
    have inRenamings := List.mem_filterMap.2 ⟨line, member, isRenaming⟩
    rw [renamed, List.mem_singleton] at inRenamings
    cases inRenamings
    exact .of_notMem (by decide) (by decide) (by decide)
  have succeeded : preprocess "#namedef p q;#define:p" = .ok "#define : q;\n" := by
    decide +kernel
  have holds : HoldsDirective "#define : q;\n" := by
    unfold HoldsDirective
    decide +kernel
  exact ⟨succeeded, fun fixed => ((preprocess_fixed_iff plain succeeded).1 fixed).2 holds⟩

end AutomataShell.Script
