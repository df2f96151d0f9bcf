import Mathlib.Data.List.DropRight
import AutomataShell.Text.Blank

/-! Trimming, and the words of a text as its normal form. -/

set_option autoImplicit false

namespace AutomataShell.Text

theorem trimEnd_cons_of_not_isBlank {c : Char} (solid : isBlank c = false) (rest : Text) :
    trimEnd (c :: rest) = c :: trimEnd rest := by
  rw [trimEnd]
  cases trimEnd rest <;> simp [solid]

theorem dropWhile_isBlank_trimEnd {text : Text} (trimmed : text.dropWhile isBlank = text) :
    (trimEnd text).dropWhile isBlank = trimEnd text := by
  cases text with
  | nil => rfl
  | cons c rest =>
    cases blank : isBlank c with
    | false =>
      rw [trimEnd_cons_of_not_isBlank blank, List.dropWhile_cons_of_neg (by simp [blank])]
    | true =>
      -- A text that starts with a blank loses it.
      have shorter := (List.dropWhile_sublist isBlank (l := rest)).length_le
      rw [List.dropWhile_cons_of_pos blank] at trimmed
      rw [trimmed] at shorter
      simp only [List.length_cons] at shorter
      omega

theorem trim_trim (text : Text) : trim (trim text) = trim text := by
  unfold trim
  rw [dropWhile_isBlank_trimEnd, trimEnd_idem]
  exact List.dropWhile_idempotent isBlank text

theorem trimEnd_append (left right : Text) :
    trimEnd (left ++ right) =
      if trimEnd right = [] then trimEnd left else left ++ trimEnd right := by
  induction left with
  | nil => by_cases blank : trimEnd right = [] <;> simp [blank, trimEnd]
  | cons c rest ih =>
    rw [List.cons_append, trimEnd, ih, trimEnd]
    by_cases blank : trimEnd right = []
    · simp [blank]
    · cases kept : rest ++ trimEnd right with
      | nil => simp [blank] at kept
      | cons d more => simp [blank, kept]

theorem trimEnd_of_solid {text : Text} (solid : ∀ c ∈ text, isBlank c = false) :
    trimEnd text = text := by
  induction text with
  | nil => rfl
  | cons c rest ih =>
    rw [trimEnd_cons_of_not_isBlank (solid c List.mem_cons_self),
      ih fun d member => solid d (List.mem_cons_of_mem c member)]

theorem trimEnd_trim (text : Text) : trimEnd (trim text) = trim text :=
  trimEnd_idem _

theorem trim_cons_of_isBlank {c : Char} (blank : isBlank c = true) (rest : Text) :
    trim (c :: rest) = trim rest := by
  rw [trim, List.dropWhile_cons_of_pos blank, trim]

theorem all_isBlank_dropWhile (text : Text) :
    (text.dropWhile isBlank).all isBlank = text.all isBlank := by
  induction text with
  | nil => rfl
  | cons c rest ih => cases blank : isBlank c <;> simp [blank, ih]

theorem trim_eq_nil_iff (text : Text) : trim text = [] ↔ text.all isBlank = true := by
  rw [trim, trimEnd_eq_nil_iff, all_isBlank_dropWhile]

theorem squeeze_eq_nil_iff (text : Text) : squeeze text = [] ↔ text.all isBlank = true := by
  simp [squeeze, List.filter_eq_nil_iff]

theorem squeeze_cons (c : Char) (rest : Text) :
    squeeze (c :: rest) = if isBlank c then squeeze rest else c :: squeeze rest := by
  cases blank : isBlank c <;> simp [squeeze, blank]

theorem squeeze_append (left right : Text) : squeeze (left ++ right) = squeeze left ++ squeeze right :=
  List.filter_append _ _

theorem count_squeeze {c : Char} (solid : isBlank c = false) (text : Text) :
    (squeeze text).count c = text.count c :=
  List.count_filter (by simp [solid])

theorem squeeze_trimEnd (text : Text) : squeeze (trimEnd text) = squeeze text := by
  induction text with
  | nil => rfl
  | cons c rest ih =>
    rw [trimEnd, squeeze_cons, ← ih]
    cases trimEnd rest with
    | nil => cases blank : isBlank c <;> simp [squeeze, blank]
    | cons d kept => rw [squeeze_cons]

theorem squeeze_trim (text : Text) : squeeze (trim text) = squeeze text := by
  rw [trim, squeeze_trimEnd]
  induction text with
  | nil => rfl
  | cons c rest ih => cases blank : isBlank c <;> simp [squeeze_cons, blank, ih]

/-- A text without blanks that is not empty. -/
def IsWord (text : Text) : Prop :=
  text ≠ [] ∧ ∀ c ∈ text, isBlank c = false

theorem IsWord.ne_of_isBlank {word : Text} (isWord : IsWord word) {c blank : Char} (member : c ∈ word)
    (ends : isBlank blank = true) : c ≠ blank := by
  intro same
  have solid := isWord.2 c member
  rw [same, ends] at solid
  cases solid

@[simp]
theorem isBlank_space : isBlank ' ' = true := by
  decide

theorem words_cons_of_isBlank {c : Char} (blank : isBlank c = true) (rest : Text) :
    words (c :: rest) = words rest := by
  simp [words, blank]

theorem words_cons_of_next_isBlank {c d : Char} (solid : isBlank c = false)
    (blank : isBlank d = true) (rest : Text) :
    words (c :: d :: rest) = [c] :: words (d :: rest) := by
  simp [words, solid, blank]

theorem words_cons_cons {c d : Char} (solid : isBlank c = false) (next : isBlank d = false)
    (rest : Text) : ∃ word others, words (d :: rest) = word :: others ∧
      words (c :: d :: rest) = (c :: word) :: others := by
  induction rest generalizing c d with
  | nil => exact ⟨[d], [], by simp [words, next], by simp [words, solid, next]⟩
  | cons e rest ih =>
    cases blank : isBlank e with
    | true =>
      have alone := words_cons_of_next_isBlank next blank rest
      exact ⟨[d], words (e :: rest), alone, by simp [words, solid, next, blank]⟩
    | false =>
      obtain ⟨word, others, inRest, same⟩ := ih next blank
      refine ⟨d :: word, others, same, ?_⟩
      rw [words.eq_def]
      simp [solid, next, same]

/-- Words end at every blank. -/
theorem words_append_cons {blank : Char} (ends : isBlank blank = true) (left right : Text) :
    words (left ++ blank :: right) = words left ++ words right := by
  -- A character starts a word or lengthens the next one, as the character after it decides.
  induction left with
  | nil => simp [words_cons_of_isBlank ends, words]
  | cons c rest ih =>
    cases solid : isBlank c with
    | true => rw [List.cons_append, words_cons_of_isBlank solid, words_cons_of_isBlank solid, ih]
    | false =>
      rcases rest with _ | ⟨d, rest⟩
      · simp [words, solid, ends]
      · cases next : isBlank d with
        | true =>
          rw [List.cons_append] at ih
          rw [List.cons_append, List.cons_append, words_cons_of_next_isBlank solid next,
            words_cons_of_next_isBlank solid next, ih, List.cons_append]
        | false =>
          obtain ⟨word, others, first, joined⟩ := words_cons_cons solid next rest
          obtain ⟨longWord, longOthers, longFirst, longJoined⟩ :=
            words_cons_cons solid next (rest ++ blank :: right)
          rw [List.cons_append, longFirst, first, List.cons_append] at ih
          obtain ⟨rfl, rfl⟩ := List.cons_eq_cons.1 ih
          rw [List.cons_append, List.cons_append, longJoined, joined, List.cons_append]

theorem words_of_isWord {word : Text} (isWord : IsWord word) : words word = [word] := by
  obtain ⟨nonempty, solid⟩ := isWord
  induction word with
  | nil => exact absurd rfl nonempty
  | cons c rest ih =>
    have solidFirst := solid c List.mem_cons_self
    rcases rest with _ | ⟨d, rest⟩
    · simp [words, solidFirst]
    · have solidNext := solid d (by simp)
      -- The first word of the rest is the whole rest, and grows by one character.
      obtain ⟨word, others, inRest, joined⟩ := words_cons_cons solidFirst solidNext rest
      have alone := ih (List.cons_ne_nil d rest) fun e member => solid e (by simp [member])
      rw [inRest] at alone
      obtain ⟨rfl, rfl⟩ := List.cons_eq_cons.1 alone
      exact joined

theorem words_join {list : List Text} (areWords : ∀ word ∈ list, IsWord word) :
    words (join " " list) = list := by
  induction list with
  | nil => rfl
  | cons word rest ih =>
    have first := words_of_isWord (areWords word List.mem_cons_self)
    rcases rest with _ | ⟨next, rest⟩
    · exact first
    · have others := ih fun other member => areWords other (List.mem_cons_of_mem word member)
      have apart : join " " (word :: next :: rest) = word ++ ' ' :: join " " (next :: rest) := by
        simp [join]
      rw [apart, words_append_cons isBlank_space, first, others, List.singleton_append]

theorem isWord_of_mem_words {text word : Text} (member : word ∈ words text) : IsWord word := by
  induction text generalizing word with
  | nil => cases member
  | cons c rest ih =>
    cases solid : isBlank c with
    | true => exact ih (words_cons_of_isBlank solid rest ▸ member)
    | false =>
      rcases rest with _ | ⟨d, rest⟩
      · have alone : word = [c] := by simpa [words, solid] using member
        simp [alone, IsWord, solid]
      · cases next : isBlank d with
        | true =>
          rw [words_cons_of_next_isBlank solid next] at member
          rcases List.mem_cons.1 member with rfl | inRest
          · simp [IsWord, solid]
          · exact ih inRest
        | false =>
          obtain ⟨first, others, inRest, joined⟩ := words_cons_cons solid next rest
          rw [joined] at member
          rcases List.mem_cons.1 member with rfl | inOthers
          · obtain ⟨_, solidFirst⟩ := ih (by simp [inRest] : first ∈ words (d :: rest))
            refine ⟨List.cons_ne_nil c first, fun e inWord => ?_⟩
            rcases List.mem_cons.1 inWord with rfl | inFirst
            · exact solid
            · exact solidFirst e inFirst
          · exact ih (by simp [inRest, inOthers])

theorem mem_of_mem_words {c : Char} {text word : Text} (inWords : word ∈ words text)
    (member : c ∈ word) : c ∈ text := by
  have inside : c ∈ (words text).flatten := List.mem_flatten.2 ⟨word, inWords, member⟩
  rw [flatten_words] at inside
  exact (List.mem_filter.1 inside).1

theorem join_cons (word : Text) (rest : List Text) :
    join " " (word :: rest) = word ++ if rest = [] then [] else ' ' :: join " " rest := by
  cases rest <;> simp [join]

theorem mem_join_cons {c : Char} (word : Text) {rest : List Text} (member : c ∈ join " " rest) :
    c ∈ join " " (word :: rest) := by
  by_cases none : rest = []
  · rw [none] at member
    cases member
  · rw [join_cons, if_neg none]
    exact List.mem_append_right word (List.mem_cons_of_mem ' ' member)

theorem join_eq_nil_iff {list : List Text} (areWords : ∀ word ∈ list, IsWord word) :
    join " " list = [] ↔ list = [] := by
  cases list with
  | nil => simp [join]
  | cons word rest =>
    rw [join_cons]
    simp [(areWords word List.mem_cons_self).1]

theorem trimEnd_join {list : List Text} (areWords : ∀ word ∈ list, IsWord word) :
    trimEnd (join " " list) = join " " list := by
  induction list with
  | nil => rfl
  | cons word rest ih =>
    have wordsOfRest := fun other member => areWords other (List.mem_cons_of_mem word member)
    have solid := trimEnd_of_solid (areWords word List.mem_cons_self).2
    rw [join_cons]
    split
    · rw [List.append_nil, solid]
    · rename_i more
      have kept := mt (join_eq_nil_iff wordsOfRest).1 more
      have space := trimEnd_append [' '] (join " " rest)
      rw [ih wordsOfRest, if_neg kept, List.singleton_append] at space
      rw [trimEnd_append, space, if_neg (List.cons_ne_nil _ _)]

theorem dropWhile_isBlank_of_isWord {word : Text} (isWord : IsWord word) (rest : Text) :
    (word ++ rest).dropWhile isBlank = word ++ rest := by
  obtain ⟨nonempty, solid⟩ := isWord
  obtain ⟨c, others, rfl⟩ := List.exists_cons_of_ne_nil nonempty
  rw [List.cons_append, List.dropWhile_cons_of_neg (by simp [solid c List.mem_cons_self])]

theorem trim_append_of_isWord {word : Text} (isWord : IsWord word) (rest : Text) :
    trim (word ++ rest) = word ++ trimEnd rest := by
  rw [trim, dropWhile_isBlank_of_isWord isWord, trimEnd_append]
  split
  · rename_i blank
    rw [blank, List.append_nil, trimEnd_of_solid isWord.2]
  · rfl

theorem trim_join {list : List Text} (areWords : ∀ word ∈ list, IsWord word) :
    trim (join " " list) = join " " list := by
  rw [trim]
  cases list with
  | nil => rfl
  | cons word rest =>
    rw [join_cons, dropWhile_isBlank_of_isWord (areWords word List.mem_cons_self), ← join_cons,
      trimEnd_join areWords]

theorem headWord_append {word : Text} (isWord : IsWord word) {rest : Text}
    (apart : rest = [] ∨ ∃ more, rest = ' ' :: more) : headWord (word ++ rest) = (word, trim rest) := by
  have solid : ∀ c ∈ word, (!isBlank c) = true := fun c member => by simp [isWord.2 c member]
  rw [headWord, dropWhile_isBlank_of_isWord isWord]
  rw [List.takeWhile_append_of_pos solid, List.dropWhile_append_of_pos solid]
  rcases apart with rfl | ⟨more, rfl⟩
  · simp
  · simp

theorem headWord_join {word : Text} {rest : List Text}
    (areWords : ∀ other ∈ word :: rest, IsWord other) :
    headWord (join " " (word :: rest)) = (word, join " " rest) := by
  have wordsOfRest := fun other member => areWords other (List.mem_cons_of_mem word member)
  rw [join_cons, headWord_append (areWords word List.mem_cons_self)]
  · split
    · rename_i none
      simp [none, join, trim, trimEnd]
    · rw [trim_cons_of_isBlank isBlank_space, trim_join wordsOfRest]
  · split
    · exact Or.inl rfl
    · exact Or.inr ⟨_, rfl⟩

end AutomataShell.Text
