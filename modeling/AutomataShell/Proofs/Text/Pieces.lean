import AutomataShell.Proofs.Text.Words

/-! The pieces of a text between marks, and joining as the other direction. -/

set_option autoImplicit false

namespace AutomataShell.Text

variable {mark : Char}

theorem pieces_of_notMem {text : Text} (free : mark ∉ text) : pieces mark text = [text] := by
  induction text with
  | nil => rfl
  | cons c rest ih =>
    have other : c ≠ mark := fun same => free (by simp [same])
    rw [pieces, if_neg other, ih fun member => free (List.mem_cons_of_mem c member)]

theorem pieces_cons_of_ne {c : Char} (other : c ≠ mark) (rest : Text) :
    ∃ piece more, pieces mark rest = piece :: more ∧
      pieces mark (c :: rest) = (c :: piece) :: more := by
  obtain ⟨piece, more, same⟩ := List.exists_cons_of_ne_nil (pieces_ne_nil mark rest)
  exact ⟨piece, more, same, by rw [pieces, if_neg other, same]⟩

/-- A mark parts the pieces of what stands before it from those of what follows. -/
theorem pieces_append_mark (left right : Text) :
    pieces mark (left ++ mark :: right) = pieces mark left ++ pieces mark right := by
  induction left with
  | nil => simp [pieces]
  | cons c rest ih =>
    by_cases isMark : c = mark
    · rw [List.cons_append, pieces, if_pos isMark, ih, pieces, if_pos isMark, List.cons_append]
    · obtain ⟨piece, more, inRest, joined⟩ := pieces_cons_of_ne isMark rest
      rw [List.cons_append, pieces, if_neg isMark, ih, inRest, joined]
      rfl

theorem pieces_append_cons {left : Text} (free : mark ∉ left) (right : Text) :
    pieces mark (left ++ mark :: right) = left :: pieces mark right := by
  rw [pieces_append_mark, pieces_of_notMem free, List.singleton_append]

theorem length_pieces (mark : Char) (text : Text) :
    (pieces mark text).length = text.count mark + 1 := by
  induction text with
  | nil => rfl
  | cons c rest ih =>
    by_cases isMark : c = mark
    · rw [pieces, if_pos isMark, List.length_cons, ih, isMark, List.count_cons_self]
    · obtain ⟨piece, more, inRest, joined⟩ := pieces_cons_of_ne isMark rest
      rw [inRest] at ih
      rw [joined, List.count_cons_of_ne isMark, ← ih, List.length_cons, List.length_cons]

/-- The pieces hold every character but the mark. -/
theorem flatten_pieces (mark : Char) (text : Text) :
    (pieces mark text).flatten = text.filter (· ≠ mark) := by
  induction text with
  | nil => rfl
  | cons c rest ih =>
    by_cases isMark : c = mark
    · simp [pieces, isMark, ih]
    · obtain ⟨piece, more, inRest, joined⟩ := pieces_cons_of_ne isMark rest
      rw [inRest, List.flatten_cons] at ih
      rw [joined, List.flatten_cons, List.cons_append, ih, List.filter_cons_of_pos (by simp [isMark])]

/-- The pieces of what has been joined are those of the parts, one part after the other. -/
theorem pieces_join_flatMap {parts : List Text} (some : parts ≠ []) :
    pieces mark (join [mark] parts) = parts.flatMap (pieces mark) := by
  induction parts with
  | nil => exact absurd rfl some
  | cons part rest ih =>
    rcases rest with _ | ⟨next, rest⟩
    · simp [join]
    · rw [join, List.append_assoc, List.singleton_append, pieces_append_mark,
        ih (List.cons_ne_nil next rest), ← List.flatMap_cons]

theorem pieces_join {parts : List Text} (some : parts ≠ []) (free : ∀ part ∈ parts, mark ∉ part) :
    pieces mark (join [mark] parts) = parts := by
  have whole : parts.flatMap (pieces mark) = parts.flatMap fun part => [part] :=
    List.flatMap_congr fun part member => pieces_of_notMem (free part member)
  rw [pieces_join_flatMap some, whole, List.flatMap_singleton']

theorem mem_join {c : Char} {separator : Text} {parts : List Text}
    (member : c ∈ join separator parts) : c ∈ separator ∨ ∃ part ∈ parts, c ∈ part := by
  induction parts with
  | nil => cases member
  | cons part rest ih =>
    rcases rest with _ | ⟨next, rest⟩
    · exact Or.inr ⟨part, List.mem_cons_self, member⟩
    · simp only [join, List.append_assoc, List.mem_append] at member
      rcases member with inPart | inSeparator | inRest
      · exact Or.inr ⟨part, List.mem_cons_self, inPart⟩
      · exact Or.inl inSeparator
      · rcases ih inRest with inSeparator | ⟨other, inOthers, inside⟩
        · exact Or.inl inSeparator
        · exact Or.inr ⟨other, List.mem_cons_of_mem part inOthers, inside⟩

theorem mem_join_of_mem {c : Char} (separator : Text) {parts : List Text} {part : Text}
    (inParts : part ∈ parts) (member : c ∈ part) : c ∈ join separator parts := by
  induction parts with
  | nil => cases inParts
  | cons first rest ih =>
    rcases rest with _ | ⟨next, rest⟩
    · exact List.mem_singleton.1 inParts ▸ member
    · rw [join, List.append_assoc]
      rcases List.mem_cons.1 inParts with rfl | inRest
      · exact List.mem_append_left _ member
      · exact List.mem_append_right _ (List.mem_append_right _ (ih inRest))

theorem exists_piece_of_mem {c : Char} (other : c ≠ mark) {text : Text} (member : c ∈ text) :
    ∃ piece ∈ pieces mark text, c ∈ piece := by
  rw [← List.mem_flatten, flatten_pieces]
  exact List.mem_filter.2 ⟨member, by simp [other]⟩

theorem mem_of_mem_pieces {c : Char} {text piece : Text} (inPieces : piece ∈ pieces mark text)
    (member : c ∈ piece) : c ∈ text := by
  have inside : c ∈ (pieces mark text).flatten := List.mem_flatten.2 ⟨piece, inPieces, member⟩
  rw [flatten_pieces] at inside
  exact (List.mem_filter.1 inside).1

theorem enumerated_cons (c : Char) (rest : List Char) :
    enumerated (c :: rest) = c :: if rest = [] then [] else ',' :: ' ' :: enumerated rest := by
  cases rest <;> rfl

/-- Each name takes one place, so a comma that is a name is told from one between names. -/
theorem enumerated_injective : Function.Injective enumerated := by
  intro left
  induction left with
  | nil =>
    intro right same
    cases right with
    | nil => rfl
    | cons d more => cases same.trans (enumerated_cons d more)
  | cons c rest ih =>
    intro right same
    cases right with
    | nil => cases (enumerated_cons c rest).symm.trans same
    | cons d more =>
      rw [enumerated_cons, enumerated_cons, List.cons.injEq] at same
      obtain ⟨rfl, same⟩ := same
      by_cases none : rest = [] <;> by_cases noneToo : more = []
      · rw [none, noneToo]
      · simp [none, noneToo] at same
      · simp [none, noneToo] at same
      · simp only [none, noneToo, if_false, List.cons.injEq, true_and] at same
        rw [ih same]

theorem mem_of_mem_enumerated {c : Char} {names : List Char} (member : c ∈ enumerated names) :
    c ∈ [',', ' '] ∨ c ∈ names := by
  rcases mem_join member with inSeparator | ⟨part, inParts, inPart⟩
  · exact .inl inSeparator
  · obtain ⟨name, inNames, rfl⟩ := List.mem_map.1 inParts
    exact .inr (List.mem_singleton.1 inPart ▸ inNames)

/-- Dropping blanks first or last gives the same pieces. -/
theorem map_squeeze_pieces (solid : isBlank mark = false) (text : Text) :
    (pieces mark text).map squeeze = pieces mark (squeeze text) := by
  induction text with
  | nil => rfl
  | cons c rest ih =>
    by_cases isMark : c = mark
    · -- The mark is no blank, so both sides break here.
      have kept : squeeze (c :: rest) = c :: squeeze rest := by
        rw [squeeze_cons, isMark, solid, if_neg Bool.false_ne_true]
      rw [kept, pieces, pieces, if_pos isMark, if_pos isMark, List.map_cons, ih]
      rfl
    · obtain ⟨piece, more, inRest, joined⟩ := pieces_cons_of_ne isMark rest
      rw [inRest, List.map_cons] at ih
      rw [joined, List.map_cons, squeeze_cons, squeeze_cons]
      cases blank : isBlank c with
      | true => exact ih
      | false => simp [pieces, isMark, ← ih]

end AutomataShell.Text
