import AutomataShell.Proofs.Script.Spacing

/-! Which tokens a line spells, told without a run of the tokenizer. A line spells one list only, and
joined by single spaces the tokens spell themselves again. -/

set_option autoImplicit false

namespace AutomataShell.Script

open Text

/-- What stands alone in a token. -/
def IsMark (token : Text) : Prop :=
  token = [','] ∨ token = [':'] ∨ token = ['-', '>']

/-- A text before which a word ends. -/
inductive EndsWord : Text → Prop where
  | done : EndsWord []
  | blank {c : Char} (ends : isBlank c = true) (rest : Text) : EndsWord (c :: rest)
  | mark {mark : Text} (isMark : IsMark mark) (rest : Text) : EndsWord (mark ++ rest)

/-- A line with its tokens: every mark, and between marks and blanks the whole words. -/
inductive Spells : Text → List Text → Prop where
  | done : Spells [] []
  | blank {c : Char} {rest : Text} {list : List Text} (ends : isBlank c = true)
      (spelled : Spells rest list) : Spells (c :: rest) list
  | mark {mark rest : Text} {list : List Text} (isMark : IsMark mark) (spelled : Spells rest list) :
      Spells (mark ++ rest) (mark :: list)
  | word {word rest : Text} {list : List Text} (isWord : IsWord word) (plain : IsPlain word)
      (ended : EndsWord rest) (spelled : Spells rest list) : Spells (word ++ rest) (word :: list)

theorem isMark_arrow : IsMark ['-', '>'] :=
  Or.inr (Or.inr rfl)

namespace IsMark

variable {mark : Text}

theorem isWord (isMark : IsMark mark) : IsWord mark := by
  have comma : isBlank ',' = false := by decide
  have colon : isBlank ':' = false := by decide
  have dash : isBlank '-' = false := by decide
  have tip : isBlank '>' = false := by decide
  rcases isMark with rfl | rfl | rfl <;> simp [IsWord, comma, colon, dash, tip]

theorem spaced_append (isMark : IsMark mark) (left right : Text) :
    spaced (left ++ (mark ++ right)) = spaced left ++ ' ' :: (mark ++ ' ' :: spaced right) := by
  rcases isMark with rfl | rfl | rfl
  · exact spaced_append_cons (by decide) left right
  · exact spaced_append_cons (by decide) left right
  · exact spaced_append_cons (by decide) left ('>' :: right)

/-- A mark is a token of its own, whatever stands next to it. -/
theorem tokens_append (isMark : IsMark mark) (left right : Text) :
    tokens (left ++ (mark ++ right)) = tokens left ++ mark :: tokens right := by
  rw [tokens, isMark.spaced_append, words_append_cons isBlank_space, words_append_cons isBlank_space,
    words_of_isWord isMark.isWord, List.singleton_append, tokens, tokens]

theorem tokens_mark_append (isMark : IsMark mark) (rest : Text) :
    tokens (mark ++ rest) = mark :: tokens rest :=
  isMark.tokens_append [] rest

end IsMark

theorem tokens_append_of_endsWord {word rest : Text} (isWord : IsWord word) (plain : IsPlain word)
    (ended : EndsWord rest) : tokens (word ++ rest) = word :: tokens rest := by
  have alone := tokens_of_plain isWord plain
  cases ended with
  | done =>
    rw [List.append_nil, alone]
    rfl
  | blank ends more =>
    rw [tokens_append_cons ends, alone, tokens_cons_of_isBlank ends, List.singleton_append]
  | mark isMark more =>
    rw [isMark.tokens_append, alone, isMark.tokens_mark_append, List.singleton_append]

/-- A line spells no other list than its tokens. -/
theorem Spells.tokens_eq {line : Text} {list : List Text} (spelled : Spells line list) :
    tokens line = list := by
  induction spelled with
  | done => rfl
  | blank ends _ ih => rw [tokens_cons_of_isBlank ends, ih]
  | mark isMark _ ih => rw [isMark.tokens_mark_append, ih]
  | word isWord plain ended _ ih => rw [tokens_append_of_endsWord isWord plain ended, ih]

theorem IsPlain.cons {c : Char} {text : Text} (plain : IsPlain text) (notMark : ¬ (c = ',' ∨ c = ':'))
    (noArrow : ∀ more, c = '-' → text = '>' :: more → False) : IsPlain (c :: text) where
  comma member := (List.mem_cons.1 member).elim (fun same => notMark (Or.inl same.symm)) plain.comma
  colon member := (List.mem_cons.1 member).elim (fun same => notMark (Or.inr same.symm)) plain.colon
  arrow inside := by
    rcases List.infix_cons_iff.1 inside with ahead | behind
    · obtain ⟨isDash, more, same⟩ := List.cons_prefix_cons.1 ahead
      exact noArrow more isDash.symm same.symm
    · exact plain.arrow behind

/-- A character that is neither a blank nor part of a mark begins a token, or lengthens the word that
follows it. -/
theorem Spells.exists_cons {c : Char} {rest : Text} {list : List Text} (solid : isBlank c = false)
    (notMark : ¬ (c = ',' ∨ c = ':')) (noArrow : ∀ more, c = '-' → rest = '>' :: more → False)
    (spelled : Spells rest list) : ∃ list, Spells (c :: rest) list := by
  have isWord : IsWord [c] := ⟨List.cons_ne_nil c [], by simp [solid]⟩
  have none : IsPlain [] := .of_notMem List.not_mem_nil List.not_mem_nil List.not_mem_nil
  have plain : IsPlain [c] := none.cons notMark fun _ _ same => by cases same
  cases spelled with
  | done => exact ⟨_, .word isWord plain .done .done⟩
  | blank ends spelled => exact ⟨_, .word isWord plain (.blank ends _) (.blank ends spelled)⟩
  | mark isMark spelled => exact ⟨_, .word isWord plain (.mark isMark _) (.mark isMark spelled)⟩
  | @word word rest list isWordNext plainNext ended spelled =>
    -- The character joins the word. No arrow arises where they meet, as none begins there in the text.
    have longer : IsWord (c :: word) :=
      ⟨List.cons_ne_nil c word, List.forall_mem_cons.2 ⟨solid, isWordNext.2⟩⟩
    have stillPlain : IsPlain (c :: word) := plainNext.cons notMark fun more isDash same =>
      noArrow (more ++ rest) isDash (by rw [same, List.cons_append])
    exact ⟨_, .word longer stillPlain ended spelled⟩

theorem exists_spells (line : Text) : ∃ list, Spells line list := by
  -- The cases in which spaces are put: an arrow, another mark, and any other character.
  fun_induction spaced line with
  | case1 => exact ⟨[], .done⟩
  | case2 rest ih =>
    obtain ⟨list, spelled⟩ := ih
    exact ⟨['-', '>'] :: list, .mark isMark_arrow spelled⟩
  | case3 c rest _ punctuation ih =>
    obtain ⟨list, spelled⟩ := ih
    have isMark : IsMark [c] := by
      rcases punctuation with rfl | rfl
      · exact Or.inl rfl
      · exact Or.inr (Or.inl rfl)
    exact ⟨[c] :: list, .mark isMark spelled⟩
  | case4 c rest noArrow notMark ih =>
    obtain ⟨list, spelled⟩ := ih
    cases blank : isBlank c with
    | true => exact ⟨list, .blank blank spelled⟩
    | false => exact spelled.exists_cons blank notMark noArrow

theorem spells_iff {line : Text} {list : List Text} : Spells line list ↔ tokens line = list := by
  refine ⟨Spells.tokens_eq, ?_⟩
  rintro rfl
  obtain ⟨list, spelled⟩ := exists_spells line
  rwa [spelled.tokens_eq]

theorem Spells.isMark_or_isPlain {line token : Text} {list : List Text} (spelled : Spells line list)
    (member : token ∈ list) : IsMark token ∨ IsPlain token := by
  induction spelled with
  | done => cases member
  | blank _ _ ih => exact ih member
  | mark isMark _ ih =>
    rcases List.mem_cons.1 member with rfl | inRest
    · exact Or.inl isMark
    · exact ih inRest
  | word _ plain _ _ ih =>
    rcases List.mem_cons.1 member with rfl | inRest
    · exact Or.inr plain
    · exact ih inRest

/-- A token is a mark, or holds none. -/
theorem isMark_or_isPlain_of_mem_tokens {line token : Text} (member : token ∈ tokens line) :
    IsMark token ∨ IsPlain token :=
  (spells_iff.2 rfl).isMark_or_isPlain member

theorem tokens_of_mem_tokens {line token : Text} (member : token ∈ tokens line) :
    tokens token = [token] := by
  rcases isMark_or_isPlain_of_mem_tokens member with (rfl | rfl | rfl) | plain
  · rfl
  · rfl
  · rfl
  · exact tokens_of_plain (isWord_of_mem_tokens member) plain

theorem flatMap_tokens_eq_self {list : List Text} (alone : ∀ word ∈ list, tokens word = [word]) :
    list.flatMap tokens = list := by
  induction list with
  | nil => rfl
  | cons word rest ih =>
    rw [List.flatMap_cons, alone word List.mem_cons_self,
      ih fun other member => alone other (List.mem_cons_of_mem word member), List.singleton_append]

/-- The tokens of a line are a normal form of it. Each is a word that is a mark or holds none, they hold
what is not blank in the line, and with single spaces between them they are the same tokens again. No
other list is spelled by the line. -/
theorem tokens_normalForm (line : Text) :
    (∀ token ∈ tokens line, IsWord token ∧ (IsMark token ∨ IsPlain token)) ∧
      (tokens line).flatten = squeeze line ∧
      tokens (join " " (tokens line)) = tokens line ∧
      ∀ list, Spells line list ↔ tokens line = list := by
  refine ⟨fun token member => ?_, flatten_tokens line, ?_, fun list => spells_iff⟩
  · exact ⟨isWord_of_mem_tokens member, isMark_or_isPlain_of_mem_tokens member⟩
  · rw [tokens_join]
    exact flatMap_tokens_eq_self fun token => tokens_of_mem_tokens

/-- Dashes before and behind an arrow, one that a comma or a blank parts from its end, and blanks that
are no spaces. -/
theorem tokens_normalForm_dashes :
    let line : Text := "-->>\u2003-,->\t- >:a->b\u00a0"
    let list : List Text := ["-", "->", ">", "-", ",", "->", "-", ">", ":", "a", "->", "b"]
    tokens line = list ∧
      ['-', '>'] ∈ list ∧ IsWord ['-', '>'] ∧ (IsMark ['-', '>'] ∨ IsPlain ['-', '>']) ∧
      list.flatten = squeeze line ∧ tokens (join " " list) = list ∧ Spells line list := by
  intro line list
  have read : tokens line = list := by decide +kernel
  have arrow : ['-', '>'] ∈ list := by decide
  obtain ⟨areTokens, whole, again, spells⟩ := tokens_normalForm line
  rw [read] at areTokens whole again
  exact ⟨read, arrow, (areTokens _ arrow).1, (areTokens _ arrow).2, whole, again,
    (spells list).2 read⟩

end AutomataShell.Script
