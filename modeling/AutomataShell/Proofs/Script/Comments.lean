import AutomataShell.Script.Comment

/-! Comments and what is left without them: what stands around a comment stays, and a text that holds
none stays as it is. -/

set_option autoImplicit false

namespace AutomataShell.Script

theorem afterComment_append {left : Text} (free : '*' ∉ left) (right : Text) :
    afterComment (left ++ right) = afterComment right := by
  induction left with
  | nil => rfl
  | cons c rest ih =>
    rw [List.cons_append, afterComment, ih fun member => free (List.mem_cons_of_mem c member)]
    intro _ same
    exact absurd (same ▸ List.mem_cons_self) free

/-- A closing mark lies before or behind a character that cannot belong to it. -/
theorem afterComment_append_cons {c : Char} (plain : c ≠ '/') (left right : Text) :
    afterComment (left ++ c :: right) =
      match afterComment left with
      | some kept => some (kept ++ c :: right)
      | none => afterComment (c :: right) := by
  fun_induction afterComment left with
  | case1 => rfl
  | case2 rest => rfl
  | case3 d rest unclosed ih =>
    rw [List.cons_append, afterComment, ih]
    intro more isStar same
    cases rest with
    | nil => exact plain (List.cons_eq_cons.1 same).1
    | cons e rest =>
      rw [(List.cons_eq_cons.1 same).1] at unclosed
      exact unclosed rest isStar rfl

theorem mem_of_mem_afterComment {text after : Text} (closed : afterComment text = some after)
    {c : Char} (member : c ∈ after) : c ∈ text := by
  fun_induction afterComment text with
  | case1 => cases closed
  | case2 rest =>
    cases closed
    simp [member]
  | case3 d rest _ ih => exact List.mem_cons_of_mem d (ih closed)

theorem pair_infix_cons_iff {a b c : Char} {rest : Text} :
    [a, b] <:+: c :: rest ↔ (c = a ∧ ∃ more, rest = b :: more) ∨ [a, b] <:+: rest := by
  have begins : [b] <+: rest ↔ ∃ more, rest = b :: more := by
    simp only [List.IsPrefix, List.singleton_append, eq_comm]
  rw [List.infix_cons_iff, List.cons_prefix_cons, begins, eq_comm]

theorem afterComment_append_closing {inside : Text} (unclosed : ¬ ['*', '/'] <:+: inside)
    (after : Text) : afterComment (inside ++ '*' :: '/' :: after) = some after := by
  induction inside with
  | nil => rfl
  | cons c inside ih =>
    rw [pair_infix_cons_iff, not_or] at unclosed
    rw [List.cons_append, afterComment, ih unclosed.2]
    -- A star before the closing mark is followed by a star, not by a slash.
    intro more isStar same
    cases inside with
    | nil => cases same
    | cons d inside => exact unclosed.1 ⟨isStar, inside, by rw [(List.cons_eq_cons.1 same).1]⟩

/-- A comment ends at the first closing mark. -/
theorem afterComment_eq_some_iff {text after : Text} :
    afterComment text = some after ↔
      ∃ inside, ¬ ['*', '/'] <:+: inside ∧ text = inside ++ '*' :: '/' :: after := by
  constructor
  · intro closed
    fun_induction afterComment text with
    | case1 => cases closed
    | case2 rest =>
      cases closed
      exact ⟨[], by simp, rfl⟩
    | case3 c rest notClosing ih =>
      obtain ⟨inside, unclosed, rfl⟩ := ih closed
      refine ⟨c :: inside, ?_, rfl⟩
      rw [pair_infix_cons_iff, not_or]
      refine ⟨?_, unclosed⟩
      rintro ⟨isStar, more, rfl⟩
      exact notClosing _ isStar rfl
  · rintro ⟨inside, unclosed, rfl⟩
    exact afterComment_append_closing unclosed after

theorem removeComments_opening (rest : Text) :
    removeComments ('/' :: '*' :: rest) =
      match afterComment rest with
      | some after => removeComments after
      | none => '/' :: '*' :: rest := by
  rw [removeComments]
  split <;> rename_i closed <;> rw [closed]

theorem removeComments_cons {c : Char} {rest : Text}
    (plain : ∀ more, c = '/' → rest = '*' :: more → False) :
    removeComments (c :: rest) = c :: removeComments rest := by
  rw [removeComments]
  exact plain

theorem removeComments_append {left : Text} (free : '/' ∉ left) (right : Text) :
    removeComments (left ++ right) = left ++ removeComments right := by
  induction left with
  | nil => rfl
  | cons c rest ih =>
    rw [List.cons_append, removeComments_cons, List.cons_append,
      ih fun member => free (List.mem_cons_of_mem c member)]
    intro _ same
    exact absurd (same ▸ List.mem_cons_self) free

/-- A text with a whole comment, whose marks do not overlap. -/
def HoldsComment (text : Text) : Prop :=
  ∃ before inside after, text = before ++ '/' :: '*' :: (inside ++ '*' :: '/' :: after)

theorem eq_of_afterComment {text after : Text} (closed : afterComment text = some after) :
    ∃ inside, text = inside ++ '*' :: '/' :: after := by
  fun_induction afterComment text with
  | case1 => cases closed
  | case2 rest =>
    cases closed
    exact ⟨[], rfl⟩
  | case3 c rest _ ih =>
    obtain ⟨inside, rfl⟩ := ih closed
    exact ⟨c :: inside, rfl⟩

theorem removeComments_of_not_holdsComment {text : Text} (free : ¬ HoldsComment text) :
    removeComments text = text := by
  fun_induction removeComments text with
  | case1 => rfl
  | case2 rest after closed ih =>
    obtain ⟨inside, rfl⟩ := eq_of_afterComment closed
    exact absurd ⟨[], inside, after, rfl⟩ free
  | case3 rest closed => rfl
  | case4 c rest _ ih =>
    rw [ih]
    intro held
    obtain ⟨before, inside, after, rfl⟩ := held
    exact free ⟨c :: before, inside, after, rfl⟩

theorem removeComments_of_uncommented {script : Text} (uncommented : ¬ ['/', '*'] <:+: script) :
    removeComments script = script := by
  apply removeComments_of_not_holdsComment
  rintro ⟨before, inside, after, rfl⟩
  exact uncommented ⟨before, inside ++ '*' :: '/' :: after, by simp⟩

theorem removeComments_sublist (text : Text) : (removeComments text).Sublist text := by
  fun_induction removeComments text with
  | case1 => exact List.Sublist.refl []
  | case2 rest after closed ih =>
    obtain ⟨inside, rfl⟩ := eq_of_afterComment closed
    have atEnd : after <:+ '/' :: '*' :: (inside ++ '*' :: '/' :: after) :=
      ⟨'/' :: '*' :: inside ++ ['*', '/'], by simp⟩
    exact ih.trans atEnd.sublist
  | case3 rest _ => exact List.Sublist.refl _
  | case4 c rest _ ih => exact ih.cons_cons c

/-- No comment reaches over the end of the last line. -/
theorem removeComments_append_end (text : Text) :
    removeComments (text ++ [';', '\n']) = removeComments text ++ [';', '\n'] := by
  have open_append (rest : Text) :
      afterComment (rest ++ [';', '\n']) = (afterComment rest).map (· ++ [';', '\n']) := by
    rw [afterComment_append_cons (by decide)]
    cases afterComment rest <;> rfl
  fun_induction removeComments text with
  | case1 => simp [removeComments]
  | case2 rest after closed ih =>
    rw [List.cons_append, List.cons_append, removeComments_opening, open_append, closed]
    exact ih
  | case3 rest unclosed =>
    rw [List.cons_append, List.cons_append, removeComments_opening, open_append, unclosed]
    rfl
  | case4 c rest plain ih =>
    rw [List.cons_append, removeComments_cons, ih, List.cons_append]
    intro more isSlash same
    rcases rest with _ | ⟨d, rest⟩
    · cases same
    · rw [(List.cons_eq_cons.1 same).1] at plain
      exact plain rest isSlash rfl

theorem exists_afterComment (inside after : Text) :
    ∃ rest, afterComment (inside ++ '*' :: '/' :: after) = some rest := by
  induction inside with
  | nil => exact ⟨after, rfl⟩
  | cons c inside ih =>
    rw [List.cons_append]
    unfold afterComment
    split
    · rename_i none
      cases none
    · exact ⟨_, rfl⟩
    · rename_i more same
      rw [← (List.cons_eq_cons.1 same).2]
      exact ih

theorem holdsComment_cons_iff {c : Char} {rest : Text} :
    HoldsComment (c :: rest) ↔
      c = '/' ∧ (∃ inside after, rest = '*' :: (inside ++ '*' :: '/' :: after)) ∨
        HoldsComment rest := by
  constructor
  · rintro ⟨_ | ⟨d, before⟩, inside, after, split⟩
    · obtain ⟨isSlash, more⟩ := List.cons_eq_cons.1 split
      exact Or.inl ⟨isSlash, inside, after, more⟩
    · exact Or.inr ⟨before, inside, after, (List.cons_eq_cons.1 split).2⟩
  · rintro (⟨rfl, inside, after, rfl⟩ | ⟨before, inside, after, rfl⟩)
    · exact ⟨[], inside, after, rfl⟩
    · exact ⟨c :: before, inside, after, rfl⟩

/-- A comment further on would close the one that has been opened. -/
theorem not_holdsComment_of_unclosed {rest : Text} (unclosed : afterComment rest = none) :
    ¬ HoldsComment ('/' :: '*' :: rest) := by
  intro held
  have closes : ∃ inside after, rest = inside ++ '*' :: '/' :: after := by
    rcases holdsComment_cons_iff.1 held with ⟨_, inside, after, split⟩ | further
    · exact ⟨inside, after, (List.cons_eq_cons.1 split).2⟩
    · rcases holdsComment_cons_iff.1 further with ⟨isSlash, _⟩ | ⟨before, inside, after, split⟩
      · exact absurd isSlash (by decide)
      · exact ⟨before ++ '/' :: '*' :: inside, after, by simp [split]⟩
  obtain ⟨inside, after, rfl⟩ := closes
  obtain ⟨more, closed⟩ := exists_afterComment inside after
  rw [unclosed] at closed
  cases closed

/-- A comment takes its stars with it. -/
theorem count_star_removeComments_lt {text : Text} (held : HoldsComment text) :
    (removeComments text).count '*' < text.count '*' := by
  fun_induction removeComments text with
  | case1 => simp [HoldsComment] at held
  | case2 rest after closed ih =>
    obtain ⟨inside, rfl⟩ := eq_of_afterComment closed
    have fewer := (removeComments_sublist after).count_le '*'
    simp only [List.count_append, List.count_cons_self, List.count_cons_of_ne (by decide : '/' ≠ '*')]
    omega
  | case3 rest unclosed => exact absurd held (not_holdsComment_of_unclosed unclosed)
  | case4 c rest plain ih =>
    rcases holdsComment_cons_iff.1 held with ⟨isSlash, inside, after, split⟩ | further
    · exact absurd split (plain _ isSlash)
    · rw [List.count_cons, List.count_cons]
      exact Nat.add_lt_add_right (ih further) _

end AutomataShell.Script
