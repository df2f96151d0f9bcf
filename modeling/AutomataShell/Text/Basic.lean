/-! Text as a list of code points, its pieces, and membership of a code point in a table of ranges.
Fixed wording is written as string literals, which stand for their code points. -/

set_option autoImplicit false

namespace AutomataShell

/-- What scripts, lines, words and messages are made of. -/
abbrev Text := List Char

instance : Coe String Text := ⟨String.toList⟩

namespace Text

def inRange (range : Nat × Nat) (code : Nat) : Bool :=
  range.1 ≤ code && code ≤ range.2

def inRanges (ranges : List (Nat × Nat)) (code : Nat) : Bool :=
  ranges.any fun range => inRange range code

/-- The parts with a separator between neighbours. -/
def join (separator : Text) : List Text → Text
  | [] => []
  | [part] => part
  | part :: next :: rest => part ++ separator ++ join separator (next :: rest)

/-- Characters with a comma and a space between neighbours. -/
def enumerated (names : List Char) : Text :=
  join [',', ' '] (names.map fun name => [name])

/-- The pieces between the occurrences of a mark; a text without the mark is its one piece. -/
def pieces (mark : Char) : Text → List Text
  | [] => [[]]
  | c :: rest =>
    if c = mark then
      [] :: pieces mark rest
    else
      match pieces mark rest with
      | [] => [[c]]
      | piece :: more => (c :: piece) :: more

theorem pieces_ne_nil (mark : Char) (text : Text) : pieces mark text ≠ [] := by
  cases text with
  | nil => simp [pieces]
  | cons c rest =>
    simp only [pieces]
    split
    · simp
    · split <;> simp

/-- Joining the pieces with the mark gives the text back. -/
theorem join_pieces (mark : Char) (text : Text) : join [mark] (pieces mark text) = text := by
  induction text with
  | nil => rfl
  | cons c rest ih =>
    simp only [pieces]
    cases same : pieces mark rest with
    | nil => exact absurd same (pieces_ne_nil mark rest)
    | cons piece more =>
      rw [same] at ih
      by_cases isMark : c = mark
      · subst isMark
        simpa [join] using ih
      · cases more <;> simp_all [join]

theorem not_mem_of_mem_pieces {mark : Char} {text piece : Text}
    (member : piece ∈ pieces mark text) : mark ∉ piece := by
  induction text generalizing piece with
  | nil => simp_all [pieces]
  | cons c rest ih =>
    simp only [pieces] at member
    by_cases isMark : c = mark
    · rcases List.mem_cons.1 (by simpa [isMark] using member) with rfl | inRest
      · simp
      · exact ih inRest
    · cases same : pieces mark rest with
      | nil => exact absurd same (pieces_ne_nil mark rest)
      | cons first more =>
        simp only [isMark, if_false, same, List.mem_cons] at member
        rcases member with rfl | inMore
        · have := ih (by simp [same] : first ∈ pieces mark rest)
          simpa [this] using fun equal => isMark equal.symm
        · exact ih (by simp [same, inMore])

/-- A number in decimal digits. -/
def ofNat (n : Nat) : Text :=
  Nat.toDigits 10 n

end Text

end AutomataShell
