import Mathlib.Data.List.Forall2
import AutomataShell.Proofs.Script.Comments
import AutomataShell.Proofs.Text.Pieces
import AutomataShell.Script.Line

/-! The logical lines of a script, told without the functions that compute them. A script has one list
of lines and no other. -/

set_option autoImplicit false

namespace AutomataShell.Script

open Text

/-- What is left of a text without its comments. The first comment begins where the first opening mark
stands that a closing mark follows, and ends with the first of these. -/
inductive Uncommented : Text → Text → Prop where
  | plain {text : Text} (free : ¬ HoldsComment text) : Uncommented text text
  | comment {before inside after bare : Text} (first : ¬ ['/', '*'] <:+: before)
      (shortest : ¬ ['*', '/'] <:+: inside) (rest : Uncommented after bare) :
      Uncommented (before ++ '/' :: '*' :: (inside ++ '*' :: '/' :: after)) (before ++ bare)

/-- A text without the blanks around it. -/
def Strips (piece line : Text) : Prop :=
  ∃ left right, piece = left ++ (line ++ right) ∧
    (∀ c ∈ left, isBlank c = true) ∧ (∀ c ∈ right, isBlank c = true) ∧
      (∀ c ∈ line.head?, isBlank c = false) ∧ ∀ c ∈ line.getLast?, isBlank c = false

/-- The lines of a script. Its comments are left out, a carriage return, a line feed or a tab is read as
a space, and what comes out is cut at each semicolon into pieces. What is left of a piece without the
blanks around it is a line, unless nothing is. -/
def HasLines (script : Text) (lines : List Text) : Prop :=
  ∃ bare pieces stripped, Uncommented script bare ∧
    (bare.map fun c => if c = '\r' ∨ c = '\n' ∨ c = '\t' then ' ' else c) =
      List.intercalate [';'] pieces ∧
    pieces ≠ [] ∧ (∀ piece ∈ pieces, ';' ∉ piece) ∧
    List.Forall₂ Strips pieces stripped ∧ lines = stripped.filter (· ≠ [])

theorem removeComments_append_comment {before inside : Text} (first : ¬ ['/', '*'] <:+: before)
    (shortest : ¬ ['*', '/'] <:+: inside) (after : Text) :
    removeComments (before ++ '/' :: '*' :: (inside ++ '*' :: '/' :: after)) =
      before ++ removeComments after := by
  induction before with
  | nil =>
    rw [List.nil_append, removeComments_opening, afterComment_append_closing shortest]
    rfl
  | cons c rest ih =>
    rw [pair_infix_cons_iff, not_or] at first
    rw [List.cons_append, removeComments_cons, ih first.2, List.cons_append]
    -- A slash at the end of what stands before the comment is followed by the slash of its mark.
    intro more isSlash same
    cases rest with
    | nil => cases same
    | cons d rest => exact first.1 ⟨isSlash, rest, by rw [(List.cons_eq_cons.1 same).1]⟩

theorem Uncommented.cons {c : Char} {rest bare : Text} (uncommented : Uncommented rest bare)
    (plain : ∀ more, c = '/' → rest = '*' :: more → False) :
    Uncommented (c :: rest) (c :: bare) := by
  cases uncommented with
  | plain free =>
    refine .plain ?_
    rw [holdsComment_cons_iff, not_or]
    refine ⟨?_, free⟩
    rintro ⟨isSlash, inside, after, same⟩
    exact plain _ isSlash same
  | @comment before inside after bare first shortest others =>
    refine @Uncommented.comment (c :: before) inside after bare ?_ shortest others
    rw [pair_infix_cons_iff, not_or]
    refine ⟨?_, first⟩
    rintro ⟨isSlash, more, rfl⟩
    exact plain _ isSlash rfl

theorem uncommented_removeComments (text : Text) : Uncommented text (removeComments text) := by
  fun_induction removeComments text with
  | case1 => exact .plain (by simp [HoldsComment])
  | case2 rest after closed ih =>
    obtain ⟨inside, shortest, rfl⟩ := afterComment_eq_some_iff.1 closed
    exact @Uncommented.comment [] inside after _ (by simp) shortest ih
  | case3 rest unclosed =>
    exact .plain (not_holdsComment_of_unclosed unclosed)
  | case4 c rest plain ih => exact ih.cons plain

theorem uncommented_iff {text bare : Text} : Uncommented text bare ↔ bare = removeComments text := by
  constructor
  · intro uncommented
    induction uncommented with
    | plain free => exact (removeComments_of_not_holdsComment free).symm
    | comment first shortest _ ih => rw [removeComments_append_comment first shortest, ih]
  · rintro rfl
    exact uncommented_removeComments text

theorem trimEnd_concat (text : Text) (c : Char) :
    trimEnd (text ++ [c]) = if isBlank c then trimEnd text else text ++ [c] := by
  rw [trimEnd_append]
  by_cases blank : isBlank c = true <;> simp [trimEnd, blank]

theorem exists_trimEnd (text : Text) :
    ∃ right, text = trimEnd text ++ right ∧ ∀ c ∈ right, isBlank c = true := by
  induction text using List.reverseRecOn with
  | nil => exact ⟨[], rfl, by simp⟩
  | append_singleton text c ih =>
    rw [trimEnd_concat]
    by_cases blank : isBlank c = true
    · obtain ⟨right, split, blanks⟩ := ih
      rw [if_pos blank]
      refine ⟨right ++ [c], by rw [← List.append_assoc, ← split], fun d member => ?_⟩
      rcases List.mem_append.1 member with inRight | isLast
      · exact blanks d inRight
      · rwa [List.mem_singleton.1 isLast]
    · rw [if_neg blank]
      exact ⟨[], by simp, by simp⟩

theorem getLast_trimEnd (text : Text) : ∀ c ∈ (trimEnd text).getLast?, isBlank c = false := by
  induction text using List.reverseRecOn with
  | nil => simp [trimEnd]
  | append_singleton text c ih =>
    rw [trimEnd_concat]
    by_cases blank : isBlank c = true
    · rwa [if_pos blank]
    · simp [blank]

theorem trimEnd_of_getLast {text : Text} (solid : ∀ c ∈ text.getLast?, isBlank c = false) :
    trimEnd text = text := by
  rcases List.eq_nil_or_concat text with rfl | ⟨others, c, rfl⟩
  · rfl
  · have ends : isBlank c = false := solid c (by simp)
    rw [List.concat_eq_append, trimEnd_concat, if_neg (by simp [ends])]

theorem trim_append_of_blank {left : Text} (blank : ∀ c ∈ left, isBlank c = true) (right : Text) :
    trim (left ++ right) = trim right := by
  induction left with
  | nil => rfl
  | cons c rest ih =>
    rw [List.cons_append, trim_cons_of_isBlank (blank c List.mem_cons_self)]
    exact ih fun d member => blank d (List.mem_cons_of_mem c member)

theorem strips_trim (piece : Text) : Strips piece (trim piece) := by
  obtain ⟨right, split, blankRight⟩ := exists_trimEnd (piece.dropWhile isBlank)
  refine ⟨piece.takeWhile isBlank, right, ?_, ?_, blankRight, ?_, getLast_trimEnd _⟩
  · rw [trim, ← split, List.takeWhile_append_dropWhile]
  · exact fun c member => List.mem_takeWhile_imp member
  · intro c first
    have stops := List.head?_dropWhile_not isBlank piece
    rw [split, List.head?_append, ← trim] at stops
    rw [Option.mem_def.1 first] at stops
    simpa using stops

theorem strips_iff {piece line : Text} : Strips piece line ↔ line = trim piece := by
  constructor
  · rintro ⟨left, right, rfl, blankLeft, blankRight, first, last⟩
    rw [trim_append_of_blank blankLeft]
    cases line with
    | nil =>
      have blank : trim right = [] := (trim_eq_nil_iff right).2 (List.all_eq_true.2 blankRight)
      rw [List.nil_append, blank]
    | cons c rest =>
      have solid : isBlank c = false := first c rfl
      have noRight : trimEnd right = [] :=
        (trimEnd_eq_nil_iff right).2 (List.all_eq_true.2 blankRight)
      rw [List.cons_append, trim, List.dropWhile_cons_of_neg (by simp [solid]), ← List.cons_append,
        trimEnd_append, if_pos noRight, trimEnd_of_getLast last]
  · rintro rfl
    exact strips_trim piece

theorem join_eq_intercalate (separator : Text) (parts : List Text) :
    join separator parts = List.intercalate separator parts := by
  induction parts with
  | nil => rfl
  | cons part rest ih =>
    cases rest with
    | nil => simp [join]
    | cons next more => rw [join, ih, List.intercalate_cons_cons]

theorem forall₂_strips_iff {pieces stripped : List Text} :
    List.Forall₂ Strips pieces stripped ↔ stripped = pieces.map trim := by
  have same : Strips = fun piece line => trim piece = line := by
    funext piece line
    exact propext (strips_iff.trans eq_comm)
  rw [same, ← List.forall₂_map_left_iff, List.forall₂_eq_eq_eq, eq_comm]

theorem statements_eq (text : Text) :
    statements text = ((pieces ';' text).map trim).filter (· ≠ []) :=
  List.filter_congr fun line _ => by cases line <;> rfl

/-- A script has one list of lines, and it is the one that is computed. -/
theorem hasLines_iff {script : Text} {lines : List Text} :
    HasLines script lines ↔ lines = logicalLines script := by
  constructor
  · rintro ⟨bare, cut, stripped, uncommented, joined, some, free, strips, rfl⟩
    obtain rfl := uncommented_iff.1 uncommented
    obtain rfl := forall₂_strips_iff.1 strips
    have sameCut : pieces ';' (breaksAsSpaces (removeComments script)) = cut := by
      rw [breaksAsSpaces, joined, ← join_eq_intercalate, pieces_join some free]
    rw [logicalLines, statements_eq, sameCut]
  · rintro rfl
    refine ⟨removeComments script, pieces ';' (breaksAsSpaces (removeComments script)), _,
      uncommented_removeComments script, ?_, pieces_ne_nil _ _,
      fun piece member => not_mem_of_mem_pieces member, forall₂_strips_iff.2 rfl, ?_⟩
    · rw [← join_eq_intercalate, join_pieces]
      rfl
    · rw [logicalLines, statements_eq]

end AutomataShell.Script
