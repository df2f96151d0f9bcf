import AutomataShell.Proofs.Text.Words
import AutomataShell.Script.Token

/-! A line put together from its tokens again. Only the blanks of the line change. -/

set_option autoImplicit false

namespace AutomataShell.Script

open Text

/-- The tokens of a line with single spaces between them. -/
def respaced (line : Text) : Text :=
  join " " (tokens line)

theorem spaced_cons {c : Char} (plain : c ≠ '-') (rest : Text) :
    spaced (c :: rest) =
      if c = ',' ∨ c = ':' then ' ' :: c :: ' ' :: spaced rest else c :: spaced rest := by
  rw [spaced]
  intro _ same
  exact absurd same plain

/-- No arrow reaches over a character that cannot end one. -/
theorem spaced_append_cons {c : Char} (plain : c ≠ '>') (left right : Text) :
    spaced (left ++ c :: right) = spaced left ++ spaced (c :: right) := by
  fun_induction spaced left with
  | case1 => rfl
  | case2 rest ih =>
    rw [List.cons_append, List.cons_append, spaced, ih]
    rfl
  | case3 d rest noArrow punctuation ih =>
    have notDash : d ≠ '-' := by
      rintro rfl
      simp at punctuation
    rw [List.cons_append, spaced_cons notDash, if_pos punctuation, ih]
    rfl
  | case4 d rest noArrow other ih =>
    -- What is appended completes no arrow either.
    have stillNone : ∀ more, d = '-' → rest ++ c :: right = '>' :: more → False := by
      intro more isDash same
      cases rest with
      | nil => exact plain (List.cons_eq_cons.1 same).1
      | cons e rest =>
        rw [(List.cons_eq_cons.1 same).1] at noArrow
        exact noArrow rest isDash rfl
    rw [List.cons_append, spaced, if_neg other, ih]
    · rfl
    · exact stillNone

/-- A text without a mark that is always a token of its own. -/
structure IsPlain (text : Text) : Prop where
  comma : ',' ∉ text
  colon : ':' ∉ text
  arrow : ¬ ['-', '>'] <:+: text

theorem IsPlain.of_notMem {text : Text} (noComma : ',' ∉ text) (noColon : ':' ∉ text)
    (noDash : '-' ∉ text) : IsPlain text where
  comma := noComma
  colon := noColon
  arrow inside := noDash (inside.subset List.mem_cons_self)

theorem spaced_of_plain {text : Text} (plain : IsPlain text) : spaced text = text := by
  fun_induction spaced text with
  | case1 => rfl
  | case2 rest _ => exact absurd ⟨[], rest, rfl⟩ plain.arrow
  | case3 c rest _ punctuation _ =>
    rcases punctuation with rfl | rfl
    · exact absurd List.mem_cons_self plain.comma
    · exact absurd List.mem_cons_self plain.colon
  | case4 c rest _ _ ih =>
    have plainRest : IsPlain rest :=
      ⟨fun member => plain.comma (List.mem_cons_of_mem c member),
        fun member => plain.colon (List.mem_cons_of_mem c member),
        fun inside => plain.arrow (List.infix_cons inside)⟩
    rw [ih plainRest]

theorem tokens_append_cons {blank : Char} (ends : isBlank blank = true) (left right : Text) :
    tokens (left ++ blank :: right) = tokens left ++ tokens right := by
  have marks : [',', ':', '-', '>'].all (fun mark => !isBlank mark) = true := by
    decide
  -- No mark that gets spaces around it, and no part of an arrow, is a blank.
  have notMark : ∀ mark ∈ [',', ':', '-', '>'], blank ≠ mark := by
    intro mark member same
    have solid := List.all_eq_true.1 marks mark member
    rw [← same, ends] at solid
    cases solid
  have alone : spaced (blank :: right) = blank :: spaced right := by
    rw [spaced_cons (notMark '-' (by simp)), if_neg (by simp [notMark])]
  rw [tokens, spaced_append_cons (notMark '>' (by simp)), alone, words_append_cons ends, tokens,
    tokens]

theorem tokens_cons_of_isBlank {blank : Char} (ends : isBlank blank = true) (rest : Text) :
    tokens (blank :: rest) = tokens rest :=
  tokens_append_cons ends [] rest

theorem tokens_dropWhile (text : Text) : tokens (text.dropWhile isBlank) = tokens text := by
  induction text with
  | nil => rfl
  | cons c rest ih =>
    cases blank : isBlank c with
    | true => rw [List.dropWhile_cons_of_pos blank, ih, tokens_cons_of_isBlank blank]
    | false => rw [List.dropWhile_cons_of_neg (by simp [blank])]

theorem tokens_singleton {c : Char} (solid : isBlank c = false) : tokens [c] = [[c]] := by
  have alone : words [c] = [[c]] := words_of_isWord ⟨List.cons_ne_nil c [], by simp [solid]⟩
  have followed : words ([c] ++ [' ']) = [[c]] := by
    rw [words_append_cons isBlank_space, alone]
    rfl
  by_cases punctuation : c = ',' ∨ c = ':'
  · have apart : spaced [c] = [' ', c, ' '] := by
      rcases punctuation with rfl | rfl <;> rfl
    rw [tokens, apart, words_cons_of_isBlank isBlank_space]
    exact followed
  · have unchanged : spaced [c] = [c] := by
      simp [spaced, punctuation]
    rw [tokens, unchanged, alone]

theorem tokens_join (list : List Text) : tokens (join " " list) = list.flatMap tokens := by
  induction list with
  | nil => rfl
  | cons word rest ih =>
    rw [join_cons, List.flatMap_cons]
    split
    · rename_i none
      rw [none, List.append_nil, List.flatMap_nil, List.append_nil]
    · rw [tokens_append_cons isBlank_space, ih]

theorem tokens_of_plain {word : Text} (isWord : IsWord word) (plain : IsPlain word) :
    tokens word = [word] := by
  rw [tokens, spaced_of_plain plain, words_of_isWord isWord]

theorem isWord_of_mem_tokens {line token : Text} (member : token ∈ tokens line) : IsWord token :=
  isWord_of_mem_words member

theorem mem_of_mem_tokens {c : Char} {line token : Text} (inTokens : token ∈ tokens line)
    (member : c ∈ token) : c ∈ line := by
  have inside : c ∈ (tokens line).flatten := List.mem_flatten.2 ⟨token, inTokens, member⟩
  rw [flatten_tokens] at inside
  exact (List.mem_filter.1 inside).1

theorem squeeze_join {list : List Text} (areWords : ∀ word ∈ list, IsWord word) :
    squeeze (join " " list) = list.flatten := by
  rw [← flatten_words, words_join areWords]

theorem squeeze_respaced (line : Text) : squeeze (respaced line) = squeeze line := by
  rw [respaced, squeeze_join fun _ => isWord_of_mem_tokens, flatten_tokens]

/-- A first word that is one token stays in front. -/
theorem headWord_respaced {word : Text} (alone : tokens word = [word]) (rest : List Text) :
    headWord (respaced (join " " (word :: rest))) = (word, respaced (join " " rest)) := by
  have areTokens : ∀ other ∈ word :: tokens (join " " rest), IsWord other := by
    intro other member
    rcases List.mem_cons.1 member with same | inTokens
    · have isToken : other ∈ tokens word := by simp [alone, same]
      exact isWord_of_mem_tokens isToken
    · exact isWord_of_mem_tokens inTokens
  have spacedAnew : respaced (join " " (word :: rest)) =
      join " " (word :: tokens (join " " rest)) := by
    rw [respaced, tokens_join, tokens_join, List.flatMap_cons, alone, List.singleton_append]
  rw [spacedAnew, headWord_join areTokens, respaced]

theorem trim_respaced (line : Text) : trim (respaced line) = respaced line :=
  trim_join fun _ => isWord_of_mem_tokens

theorem tokens_eq_nil_iff (line : Text) : tokens line = [] ↔ squeeze line = [] := by
  rw [← flatten_tokens, List.flatten_eq_nil_iff]
  constructor
  · intro none
    simp [none]
  · -- A token is never empty, so texts that are empty throughout are no tokens.
    intro empty
    rw [List.eq_nil_iff_forall_not_mem]
    exact fun token member => (isWord_of_mem_tokens member).1 (empty token member)

theorem respaced_eq_nil_iff (line : Text) : respaced line = [] ↔ squeeze line = [] := by
  rw [respaced, join_eq_nil_iff fun _ => isWord_of_mem_tokens, tokens_eq_nil_iff]

end AutomataShell.Script
