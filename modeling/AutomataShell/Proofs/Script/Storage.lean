import AutomataShell.Proofs.Script.Comments
import AutomataShell.Proofs.Script.Lines

/-! Stored lines: what a session writes to a file, read as a script again. Comments may begin in one
line and end in a later one, but the words of the verbs stand outside them, so whatever survives is
again a list of lines that a replay repeats. -/

set_option autoImplicit false

namespace AutomataShell.Script

open Text

/-- The word of a verb that a replay repeats. -/
def IsVerbWord (word : Text) : Prop :=
  (Verb.ofKeyword (lower word)).any Verb.isReplayed = true

/-- What may follow the first word of a line. -/
def IsTail (rest : Text) : Prop :=
  rest = [] ∨ ∃ more, rest = ' ' :: more

def IsStorable (line : Text) : Prop :=
  ∃ word rest, line = word ++ rest ∧ IsVerbWord word ∧ IsTail rest ∧ ';' ∉ rest

theorem tokens_of_ofKeyword {word : Text} {verb : Verb}
    (known : Verb.ofKeyword (lower word) = some verb) : tokens word = [word] := by
  have apart := Verb.marks_notMem_of_ofKeyword known
  exact tokens_of_plain (Verb.isWord_of_ofKeyword known)
    (.of_notMem (apart ',' (by simp)) (apart ':' (by simp)) (apart '-' (by simp)))

namespace IsVerbWord

variable {word : Text}

theorem ofKeyword_eq (isVerb : IsVerbWord word) :
    ∃ verb, Verb.ofKeyword (lower word) = some verb ∧ verb.isReplayed = true :=
  (Option.any_eq_true _ _).1 isVerb

theorem isWord (isVerb : IsVerbWord word) : IsWord word := by
  obtain ⟨verb, known, _⟩ := isVerb.ofKeyword_eq
  exact Verb.isWord_of_ofKeyword known

theorem notMem (isVerb : IsVerbWord word) :
    ∀ mark ∈ ['/', '*', ';', ',', ':', '-'], mark ∉ word := by
  obtain ⟨verb, known, _⟩ := isVerb.ofKeyword_eq
  exact Verb.marks_notMem_of_ofKeyword known

theorem tokens_eq (isVerb : IsVerbWord word) : tokens word = [word] := by
  obtain ⟨verb, known, _⟩ := isVerb.ofKeyword_eq
  exact tokens_of_ofKeyword known

end IsVerbWord

theorem written_cons (line : Text) (rest : List Text) :
    written (line :: rest) = line ++ ';' :: '\n' :: written rest := by
  simp [written]

/-- A comment in stored lines ends inside a line, behind its first word. -/
theorem afterComment_stored {lines : List Text} (storable : ∀ line ∈ lines, IsStorable line)
    {part after : Text} (free : ';' ∉ part)
    (closed : afterComment (part ++ ';' :: '\n' :: written lines) = some after) :
    ∃ kept others, after = kept ++ ';' :: '\n' :: written others ∧ ';' ∉ kept ∧
      ∀ line ∈ others, IsStorable line := by
  induction lines generalizing part with
  | nil =>
    rw [afterComment_append_cons (by decide)] at closed
    split at closed
    · rename_i kept inPart
      cases closed
      exact ⟨kept, [], rfl, fun member => free (mem_of_mem_afterComment inPart member), storable⟩
    · simp [written, afterComment] at closed
  | cons line rest ih =>
    rw [afterComment_append_cons (by decide)] at closed
    split at closed
    · rename_i kept inPart
      cases closed
      exact ⟨kept, line :: rest, rfl, fun member => free (mem_of_mem_afterComment inPart member),
        storable⟩
    · -- A verb holds no star, so the comment goes on into the tail of this line at least.
      obtain ⟨word, tail, rfl, isVerb, _, freeTail⟩ := storable line List.mem_cons_self
      have starless : '*' ∉ ';' :: '\n' :: word := by
        simpa using isVerb.notMem '*' (by simp)
      have regrouped : ';' :: '\n' :: written ((word ++ tail) :: rest) =
          (';' :: '\n' :: word) ++ (tail ++ ';' :: '\n' :: written rest) := by
        simp [written_cons]
      rw [regrouped, afterComment_append starless] at closed
      exact ih (fun other member => storable other (List.mem_cons_of_mem _ member)) freeTail closed

-- A comment that opens in a line may close in any later one, so no recursion on the lines fits: this
-- one is on all that is still to be read.
/-- Without its comments, a rest of stored lines is one again. -/
theorem removeComments_stored (lines : List Text) (storable : ∀ line ∈ lines, IsStorable line)
    (part : Text) (free : ';' ∉ part) :
    ∃ kept others, removeComments (part ++ ';' :: '\n' :: written lines) =
        kept ++ ';' :: '\n' :: written others ∧
      (IsTail part → IsTail kept) ∧ ';' ∉ kept ∧ ∀ line ∈ others, IsStorable line := by
  match part, lines with
  | [], [] => exact ⟨[], [], by simp [written, removeComments], id, free, storable⟩
  | [], line :: rest =>
    obtain ⟨word, tail, rfl, isVerb, isTail, freeTail⟩ := storable line List.mem_cons_self
    -- Nothing opens before the tail of the next line, whose verb stays as it is.
    have unslashed : '/' ∉ ';' :: '\n' :: word := by
      simpa using isVerb.notMem '/' (by simp)
    have regrouped : [] ++ ';' :: '\n' :: written ((word ++ tail) :: rest) =
        (';' :: '\n' :: word) ++ (tail ++ ';' :: '\n' :: written rest) := by
      simp [written_cons]
    obtain ⟨kept, others, removed, staysTail, freeKept, storableOthers⟩ :=
      removeComments_stored rest (fun other member => storable other (List.mem_cons_of_mem _ member))
        tail freeTail
    refine ⟨[], (word ++ kept) :: others, ?_, id, free, ?_⟩
    · rw [regrouped, removeComments_append unslashed, removed]
      simp [written_cons]
    · have isStorable : IsStorable (word ++ kept) :=
        ⟨word, kept, rfl, isVerb, staysTail isTail, freeKept⟩
      exact List.forall_mem_cons.2 ⟨isStorable, storableOthers⟩
  | c :: part, lines =>
    have freePart : ';' ∉ part := fun member => free (List.mem_cons_of_mem c member)
    by_cases opens : c = '/' ∧ ∃ inside, part = '*' :: inside
    · obtain ⟨rfl, inside, rfl⟩ := opens
      have freeInside : ';' ∉ inside := fun member => freePart (List.mem_cons_of_mem _ member)
      have notTail : ¬ IsTail ('/' :: '*' :: inside) := by simp [IsTail]
      cases closed : afterComment (inside ++ ';' :: '\n' :: written lines) with
      | none =>
        -- What is never closed is no comment.
        refine ⟨'/' :: '*' :: inside, lines, ?_, id, free, storable⟩
        rw [List.cons_append, List.cons_append, removeComments_opening, closed]
      | some after =>
        obtain ⟨left, rest, rfl, freeLeft, storableRest⟩ :=
          afterComment_stored storable freeInside closed
        have shorter := length_lt_of_afterComment closed
        obtain ⟨kept, others, removed, _, freeKept, storableOthers⟩ :=
          removeComments_stored rest storableRest left freeLeft
        refine ⟨kept, others, ?_, fun isTail => absurd isTail notTail, freeKept, storableOthers⟩
        rw [List.cons_append, List.cons_append, removeComments_opening, closed]
        exact removed
    · obtain ⟨kept, others, removed, _, freeKept, storableOthers⟩ :=
        removeComments_stored lines storable part freePart
      refine ⟨c :: kept, others, ?_, ?_, ?_, storableOthers⟩
      · rw [List.cons_append, removeComments_cons, removed, List.cons_append]
        intro more isSlash same
        cases part with
        | nil => simp at same
        | cons d part => exact opens ⟨isSlash, part, by rw [(List.cons_eq_cons.1 same).1]⟩
      · simp [IsTail]
      · simp only [List.mem_cons, not_or] at free ⊢
        exact ⟨free.1, freeKept⟩
termination_by (part ++ ';' :: '\n' :: written lines).length
decreasing_by
  all_goals simp_all [written_cons]
  all_goals omega

theorem removeComments_written {lines : List Text} (storable : ∀ line ∈ lines, IsStorable line) :
    ∃ others, removeComments (written lines) = written others ∧
      ∀ line ∈ others, IsStorable line := by
  cases lines with
  | nil => exact ⟨[], by simp [written, removeComments], storable⟩
  | cons line rest =>
    obtain ⟨word, tail, rfl, isVerb, isTail, freeTail⟩ := storable line List.mem_cons_self
    obtain ⟨kept, others, removed, staysTail, freeKept, storableOthers⟩ :=
      removeComments_stored rest (fun other member => storable other (List.mem_cons_of_mem _ member))
        tail freeTail
    refine ⟨(word ++ kept) :: others, ?_, ?_⟩
    · rw [written_cons, List.append_assoc, removeComments_append (isVerb.notMem '/' (by simp)),
        removed, written_cons, List.append_assoc]
    · have isStorable : IsStorable (word ++ kept) :=
        ⟨word, kept, rfl, isVerb, staysTail isTail, freeKept⟩
      exact List.forall_mem_cons.2 ⟨isStorable, storableOthers⟩

end AutomataShell.Script
