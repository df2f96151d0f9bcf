import AutomataShell.Proofs.Script.Comments
import AutomataShell.Proofs.Script.Grammar

/-! Comments put into a text. They are what is cut out of it, wherever they stand and whatever stands
next to them, so the expansion of the text is the one that it had without them. -/

set_option autoImplicit false

namespace AutomataShell.Script

/-- A text, and the same with comments at its ends and between its characters. -/
inductive Commented : Text → Text → Prop where
  | nil : Commented [] []
  | char {plain text : Text} (c : Char) (rest : Commented plain text) :
      Commented (c :: plain) (c :: text)
  | comment {plain inside text : Text} (unclosed : ¬ ['*', '/'] <:+: inside)
      (rest : Commented plain text) :
      Commented plain ('/' :: '*' :: (inside ++ '*' :: '/' :: text))

namespace Commented

variable {plain text : Text}

/-- A comment begins with a slash, so a star in front is one of the text. -/
theorem exists_star {more : Text} (commented : Commented plain ('*' :: more)) :
    ∃ others, plain = '*' :: others := by
  cases commented with
  | char _ _ => exact ⟨_, rfl⟩

theorem removeComments_eq (commented : Commented plain text) (free : ¬ ['/', '*'] <:+: plain) :
    removeComments text = plain := by
  induction commented with
  | nil => simp [removeComments]
  | char c rest ih =>
    rw [pair_infix_cons_iff, not_or] at free
    rw [removeComments_cons, ih free.2]
    rintro more isSlash rfl
    exact free.1 ⟨isSlash, rest.exists_star⟩
  | comment unclosed _ ih =>
    rw [removeComments_opening, afterComment_append_closing unclosed]
    exact ih free

end Commented

/-- Without an opening mark of its own, a text is left of just those texts that are it with comments put
into it. -/
theorem commented_iff {plain text : Text} (free : ¬ ['/', '*'] <:+: plain) :
    Commented plain text ↔ removeComments text = plain := by
  refine ⟨fun commented => commented.removeComments_eq free, ?_⟩
  rintro rfl
  fun_induction removeComments text with
  | case1 => exact .nil
  | case2 rest after closed ih =>
    obtain ⟨inside, unclosed, rfl⟩ := afterComment_eq_some_iff.1 closed
    exact .comment unclosed (ih free)
  | case3 rest _ => exact absurd (pair_infix_cons_iff.2 (.inl ⟨rfl, rest, rfl⟩)) free
  | case4 c rest _ ih =>
    rw [pair_infix_cons_iff, not_or] at free
    exact .char c (ih free.2)

/-- Comments that are put into a text without opening marks are cut out of it again, and nothing else
is. The text expands to the same commands as before, or fails with the same error. -/
theorem preprocess_of_commented {plain text : Text} (free : ¬ ['/', '*'] <:+: plain)
    (commented : Commented plain text) :
    removeComments text = plain ∧ preprocess text = preprocess plain := by
  have cut : removeComments text = plain := commented.removeComments_eq free
  have kept : removeComments plain = plain := removeComments_of_uncommented free
  have sameLines : logicalLines text = logicalLines plain := by
    rw [logicalLines, logicalLines, cut, kept]
  exact ⟨cut, by simp only [preprocess, expand, expansion, sameLines]⟩

/-- Comments within a keyword, next to slashes and stars and next to each other. One begins with a
slash, one ends with a star, and two hold what would be lines. -/
theorem preprocess_of_commented_directive :
    let plain : Text := "#define /;*;#endif x"
    let text : Text := "#def/*/;*/ine //*#endif;**/;/**//*/* */*;#endif x"
    ¬ ['/', '*'] <:+: plain ∧ Commented plain text ∧ removeComments text = plain ∧
      preprocess text = preprocess plain ∧
      preprocess plain = .error (.operandCount .endBlock "#endif x") := by
  intro plain text
  have free : ¬ ['/', '*'] <:+: plain := by decide +kernel
  have commented : Commented plain text := (commented_iff free).2 (by decide +kernel)
  obtain ⟨cut, same⟩ := preprocess_of_commented free commented
  exact ⟨free, commented, cut, same, (preprocess_eq_error_iff plain _).2 (by decide +kernel)⟩

end AutomataShell.Script
