import AutomataShell.Text.Basic

/-! Blank characters, trimming, and the words of a text. -/

set_option autoImplicit false

namespace AutomataShell.Text

/-- Whitespace of Unicode, with the information separators U+001C to U+001F. -/
def blankRanges : List (Nat × Nat) :=
  [(0x09, 0x0D), (0x1C, 0x20), (0x85, 0x85), (0xA0, 0xA0), (0x1680, 0x1680), (0x2000, 0x200A),
    (0x2028, 0x2029), (0x202F, 0x202F), (0x205F, 0x205F), (0x3000, 0x3000)]

def isBlank (c : Char) : Bool :=
  inRanges blankRanges c.toNat

/-- Drops the blanks at the end. -/
def trimEnd : Text → Text
  | [] => []
  | c :: rest =>
    match trimEnd rest with
    | [] => if isBlank c then [] else [c]
    | kept => c :: kept

/-- Drops the blanks at both ends. -/
def trim (text : Text) : Text :=
  trimEnd (text.dropWhile isBlank)

/-- Drops every blank. -/
def squeeze (text : Text) : Text :=
  text.filter fun c => !isBlank c

/-- The maximal runs of characters that are not blank. -/
def words : Text → List Text
  | [] => []
  | c :: rest =>
    if isBlank c then
      words rest
    else
      match rest, words rest with
      | [], _ => [[c]]
      | d :: _, more =>
        if isBlank d then
          [c] :: more
        else
          match more with
          | [] => [[c]]
          | word :: others => (c :: word) :: others

/-- The first word and the trimmed rest; both are empty for a blank text. -/
def headWord (text : Text) : Text × Text :=
  let start := text.dropWhile isBlank
  (start.takeWhile fun c => !isBlank c, trim (start.dropWhile fun c => !isBlank c))

theorem trimEnd_idem (text : Text) : trimEnd (trimEnd text) = trimEnd text := by
  induction text with
  | nil => rfl
  | cons c rest ih =>
    simp only [trimEnd]
    cases same : trimEnd rest with
    | nil => by_cases blank : isBlank c <;> simp [blank, trimEnd]
    | cons d kept =>
      rw [same] at ih
      simp only
      rw [trimEnd, ih]

/-- Trimming leaves exactly what is not blank throughout. -/
theorem trimEnd_eq_nil_iff (text : Text) : trimEnd text = [] ↔ text.all isBlank = true := by
  induction text with
  | nil => simp [trimEnd]
  | cons c rest ih =>
    simp only [trimEnd, List.all_cons, Bool.and_eq_true]
    cases same : trimEnd rest with
    | nil =>
      have := ih.1 same
      by_cases blank : isBlank c <;> simp [blank, this]
    | cons d kept =>
      have : ¬ rest.all isBlank = true := fun all => by simp [ih.2 all] at same
      simp [this]

theorem mem_of_mem_trimEnd {c : Char} {text : Text} (member : c ∈ trimEnd text) : c ∈ text := by
  induction text with
  | nil => simp [trimEnd] at member
  | cons d rest ih =>
    simp only [trimEnd] at member
    cases same : trimEnd rest with
    | nil =>
      by_cases blank : isBlank d <;> simp_all
    | cons e kept =>
      rw [same] at ih member
      rcases List.mem_cons.1 member with rfl | inside
      · exact List.mem_cons_self
      · exact List.mem_cons_of_mem _ (ih inside)

theorem mem_of_mem_trim {c : Char} {text : Text} (member : c ∈ trim text) : c ∈ text :=
  (List.dropWhile_sublist isBlank).subset (mem_of_mem_trimEnd member)

theorem squeeze_squeeze (text : Text) : squeeze (squeeze text) = squeeze text := by
  simp [squeeze]

/-- The words hold every character that is not blank, in order. -/
theorem flatten_words (text : Text) : (words text).flatten = squeeze text := by
  induction text with
  | nil => rfl
  | cons c rest ih =>
    by_cases blank : isBlank c
    · simpa [words, squeeze, blank] using ih
    · cases rest with
      | nil => simp [words, squeeze, blank]
      | cons d more =>
        simp only [words, blank, Bool.false_eq_true, if_false] at ih ⊢
        by_cases next : isBlank d
        · simp_all [squeeze]
        · cases same : words (d :: more) with
          | nil => simp_all [squeeze, words]
          | cons word others => simp_all [squeeze, words]

end AutomataShell.Text
