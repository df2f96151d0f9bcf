import AutomataShell.Machine.Label
import AutomataShell.Proofs.Command.Rereading
import AutomataShell.Proofs.Script.Storage

/-! Connections as a user may write them: a source, a delimiter and arrows, with spaces wherever they do
no harm. Whatever characters they are made of, they are read as what they were written for, as they
stand and with their tokens spaced anew. -/

set_option autoImplicit false

namespace AutomataShell

open Script Text

namespace Text

/-- A character that may name a node or a letter in an argument: lower case leaves it as it is, and it
neither ends nor parts the arguments. -/
structure IsLegible (c : Char) : Prop where
  solid : isBlank c = false
  noComma : c ≠ ','
  noSemicolon : c ≠ ';'
  own : lower [c] = [c]

def spaces (count : Nat) : Text :=
  List.replicate count ' '

end Text

/-- An arrow with the spaces before the letter, around the colon, and behind the target. -/
structure SpelledArrow where
  letter : Char
  target : Char
  before : Nat
  left : Nat
  right : Nat
  after : Nat
  deriving DecidableEq, Repr

namespace SpelledArrow

def pair (arrow : SpelledArrow) : Char × Char :=
  (arrow.letter, arrow.target)

def shown (arrow : SpelledArrow) : Text :=
  spaces arrow.before ++ arrow.letter :: (spaces arrow.left ++ ':' ::
    (spaces arrow.right ++ arrow.target :: spaces arrow.after))

end SpelledArrow

/-- A delimiter with the spaces around it. The word has at least one on either side. -/
inductive Delimiter where
  | arrow (left right : Nat)
  | word (left right : Nat)
  deriving DecidableEq, Repr

def Delimiter.shown : Delimiter → Text
  | .arrow left right => spaces left ++ '-' :: '>' :: spaces right
  | .word left right => spaces (left + 1) ++ 't' :: 'o' :: spaces (right + 1)

/-- What follows the verb of a connection. -/
def connection (source : Char) (delimiter : Delimiter) (arrows : List SpelledArrow) : Text :=
  source :: (delimiter.shown ++ join [','] (arrows.map SpelledArrow.shown))

def connectLine (source : Char) (delimiter : Delimiter) (arrows : List SpelledArrow) : Text :=
  Verb.name .connect ++ ' ' :: connection source delimiter arrows

namespace Text

theorem lower_singleton (c : Char) : lower [c] = lowerChar c := by
  simp [lower, lowerAfter, isFinalSigma, startsCased]

theorem IsLegible.notSigma {c : Char} (legible : IsLegible c) : c ≠ 'Σ' := by
  rintro rfl
  have own := legible.own
  revert own
  decide

theorem IsLegible.lowerChar_eq {c : Char} (legible : IsLegible c) : lowerChar c = [c] := by
  rw [← lower_singleton, legible.own]

/-- Lower case leaves a text alone that it leaves alone character by character. -/
theorem lower_of_own {text : Text} (noSigma : 'Σ' ∉ text) (own : ∀ c ∈ text, lowerChar c = [c]) :
    lower text = text := by
  rw [lower, lowerAfter_eq_flatMap _ _ noSigma]
  clear noSigma
  induction text with
  | nil => rfl
  | cons c rest ih =>
    rw [List.flatMap_cons, own c List.mem_cons_self,
      ih fun d member => own d (List.mem_cons_of_mem c member), List.singleton_append]

theorem squeeze_spaces_append (count : Nat) (text : Text) :
    squeeze (spaces count ++ text) = squeeze text := by
  rw [squeeze_append, squeeze, spaces, List.filter_replicate]
  simp

theorem dropWhile_spaces_append (count : Nat) (text : Text) :
    (spaces count ++ text).dropWhile isBlank = text.dropWhile isBlank := by
  induction count with
  | zero => rfl
  | succ count ih =>
    rw [spaces, List.replicate_succ, List.cons_append, List.dropWhile_cons_of_pos isBlank_space]
    exact ih

theorem squeeze_join_mark {mark : Char} (solid : isBlank mark = false) (parts : List Text) :
    squeeze (join [mark] parts) = join [mark] (parts.map squeeze) := by
  induction parts with
  | nil => rfl
  | cons part rest ih =>
    rcases rest with _ | ⟨next, rest⟩
    · rfl
    · rw [List.map_cons] at ih
      rw [join, squeeze_append, squeeze_append, ih, squeeze_cons, solid]
      rfl

end Text

namespace SpelledArrow

/-- The characters of the arrow are all legible. -/
structure IsLegible (arrow : SpelledArrow) : Prop where
  letter : Text.IsLegible arrow.letter
  target : Text.IsLegible arrow.target

theorem squeeze_shown {arrow : SpelledArrow} (legible : arrow.IsLegible) :
    squeeze arrow.shown = [arrow.letter, ':', arrow.target] := by
  have colon : isBlank ':' = false := by decide
  have nothing : squeeze (spaces arrow.after) = [] := by
    have padded := squeeze_spaces_append arrow.after []
    rwa [List.append_nil] at padded
  rw [shown, squeeze_spaces_append, squeeze_cons, legible.letter.solid, squeeze_spaces_append,
    squeeze_cons, colon, squeeze_spaces_append, squeeze_cons, legible.target.solid, nothing]
  rfl

theorem mem_shown {arrow : SpelledArrow} {c : Char} (member : c ∈ arrow.shown) :
    c = ' ' ∨ c = ':' ∨ c = arrow.letter ∨ c = arrow.target := by
  simp only [shown, spaces, List.mem_append, List.mem_cons, List.mem_replicate] at member
  tauto

end SpelledArrow

theorem Delimiter.mem_shown {delimiter : Delimiter} {c : Char} (member : c ∈ delimiter.shown) :
    c ∈ [' ', '-', '>', 't', 'o'] := by
  cases delimiter <;>
    simp only [shown, spaces, List.mem_append, List.mem_cons, List.mem_replicate] at member ⊢ <;>
    tauto

namespace Command

/-- Arrows without any spaces. -/
def compact (pairs : List (Char × Char)) : Text :=
  join [','] (pairs.map fun pair => [pair.1, ':', pair.2])

section Compact

variable {pairs : List (Char × Char)}

theorem mem_compact (legible : ∀ pair ∈ pairs, IsLegible pair.1 ∧ IsLegible pair.2) {c : Char}
    (member : c ∈ compact pairs) : c = ',' ∨ c = ':' ∨ IsLegible c := by
  rcases mem_join member with isComma | ⟨part, inParts, inPart⟩
  · exact .inl (List.mem_singleton.1 isComma)
  · obtain ⟨pair, inPairs, rfl⟩ := List.mem_map.1 inParts
    simp only [List.mem_cons, List.not_mem_nil, or_false] at inPart
    rcases inPart with rfl | isColon | rfl
    · exact .inr (.inr (legible pair inPairs).1)
    · exact .inr (.inl isColon)
    · exact .inr (.inr (legible pair inPairs).2)

theorem sigma_notMem_compact (legible : ∀ pair ∈ pairs, IsLegible pair.1 ∧ IsLegible pair.2) :
    'Σ' ∉ compact pairs := by
  intro member
  rcases mem_compact legible member with isComma | isColon | isLegible
  · revert isComma
    decide
  · revert isColon
    decide
  · exact isLegible.notSigma rfl

theorem lower_compact (legible : ∀ pair ∈ pairs, IsLegible pair.1 ∧ IsLegible pair.2) :
    lower (compact pairs) = compact pairs := by
  refine lower_of_own (sigma_notMem_compact legible) fun c member => ?_
  rcases mem_compact legible member with rfl | rfl | isLegible
  · decide
  · decide
  · exact isLegible.lowerChar_eq

theorem pieces_compact (nonempty : pairs ≠ [])
    (legible : ∀ pair ∈ pairs, IsLegible pair.1 ∧ IsLegible pair.2) :
    pieces ',' (compact pairs) = pairs.map fun pair => [pair.1, ':', pair.2] := by
  refine pieces_join (by simpa using nonempty) fun part inParts member => ?_
  obtain ⟨pair, inPairs, rfl⟩ := List.mem_map.1 inParts
  simp only [List.mem_cons, List.not_mem_nil, or_false] at member
  rcases member with isLetter | isColon | isTarget
  · exact (legible pair inPairs).1.noComma isLetter.symm
  · revert isColon
    decide
  · exact (legible pair inPairs).2.noComma isTarget.symm

theorem readArrows_compact (nonempty : pairs ≠ [])
    (legible : ∀ pair ∈ pairs, IsLegible pair.1 ∧ IsLegible pair.2) :
    readArrows (compact pairs) = .ok pairs := by
  have colon : isBlank ':' = false := by decide
  rw [readArrows, lower_compact legible, pieces_compact nonempty legible]
  clear nonempty
  induction pairs with
  | nil => rfl
  | cons pair rest ih =>
    obtain ⟨letter, target⟩ := legible pair List.mem_cons_self
    have first : readArrow [pair.1, ':', pair.2] = .ok pair := by
      simp [readArrow, squeeze, letter.solid, target.solid, colon]
    rw [List.map_cons, List.mapM_cons, first,
      ih fun other member => legible other (List.mem_cons_of_mem pair member)]
    rfl

end Compact

theorem squeeze_arrows {arrows : List SpelledArrow} (legible : ∀ arrow ∈ arrows, arrow.IsLegible) :
    squeeze (join [','] (arrows.map SpelledArrow.shown)) =
      compact (arrows.map SpelledArrow.pair) := by
  rw [squeeze_join_mark (by decide), compact, List.map_map, List.map_map]
  congr 1
  exact List.map_congr_left fun arrow member => SpelledArrow.squeeze_shown (legible arrow member)

/-- Arrows are read back from any text that holds their characters in order. -/
theorem readArrows_spelled {arrows : List SpelledArrow} (nonempty : arrows ≠ [])
    (legible : ∀ arrow ∈ arrows, arrow.IsLegible) {text : Text}
    (same : squeeze text = squeeze (join [','] (arrows.map SpelledArrow.shown))) :
    readArrows text = .ok (arrows.map SpelledArrow.pair) := by
  have legiblePairs : ∀ pair ∈ arrows.map SpelledArrow.pair,
      IsLegible pair.1 ∧ IsLegible pair.2 := by
    intro pair member
    obtain ⟨arrow, inArrows, rfl⟩ := List.mem_map.1 member
    exact ⟨(legible arrow inArrows).letter, (legible arrow inArrows).target⟩
  have bare : squeeze text = squeeze (compact (arrows.map SpelledArrow.pair)) := by
    rw [same, ← squeeze_squeeze, squeeze_arrows legible]
  rw [readArrows_congr (sigma_notMem_compact legiblePairs) bare,
    readArrows_compact (by simpa using nonempty) legiblePairs]

theorem squeeze_arrows_ne_nil {arrows : List SpelledArrow} (nonempty : arrows ≠ [])
    (legible : ∀ arrow ∈ arrows, arrow.IsLegible) :
    squeeze (join [','] (arrows.map SpelledArrow.shown)) ≠ [] := by
  -- A blank text would be read as arrows too.
  intro none
  have empty : squeeze [] = squeeze (join [','] (arrows.map SpelledArrow.shown)) := by
    rw [none]
    rfl
  have impossible := readArrows_spelled nonempty legible empty
  cases impossible

theorem afterDelimiter_shown (delimiter : Delimiter) (rest : Text) :
    afterDelimiter (delimiter.shown ++ rest) = some (rest.dropWhile isBlank) := by
  have dash : isBlank '-' = false := by decide
  have small : isBlank 't' = false := by decide
  cases delimiter with
  | arrow left right =>
    rw [afterDelimiter, Delimiter.shown, List.append_assoc, dropWhile_spaces_append,
      List.cons_append, List.dropWhile_cons_of_neg (by simp [dash])]
    simp only [List.cons_append, dropWhile_spaces_append]
  | word left right =>
    have blankFirst : (spaces (left + 1) ++ 't' :: 'o' :: (spaces (right + 1) ++ rest)).head?.any
        isBlank = true := by
      simp [spaces, List.replicate_succ]
    have begins : spaces (right + 1) ++ rest = ' ' :: (spaces right ++ rest) := by
      simp [spaces, List.replicate_succ]
    rw [afterDelimiter, Delimiter.shown, List.append_assoc, List.cons_append, List.cons_append,
      dropWhile_spaces_append, List.dropWhile_cons_of_neg (by simp [small])]
    simp only [begins] at blankFirst ⊢
    rw [blankFirst]
    simp [dropWhile_spaces_append]

theorem readName_cases {c : Char} (solid : isBlank c = false) :
    readName [c] = .ok c ∨ (∃ why, readName [c] = .error why) ∧ ¬ Label.IsLegal c := by
  have kept : squeeze [c] = [c] := by simp [squeeze, solid]
  unfold readName
  rw [kept]
  simp only
  split
  · rename_i isNul
    exact .inr ⟨⟨_, rfl⟩, fun legal => legal.1 isNul⟩
  · split
    · rename_i isWildcard
      exact .inr ⟨⟨_, rfl⟩, fun legal => legal.2.1 isWildcard⟩
    · exact .inl rfl

theorem readConnect_of_splitAtDelimiter {source : Char} (legible : IsLegible source)
    {text after : Text} {arrows : List (Char × Char)}
    (split : splitAtDelimiter text = some ([source], after))
    (read : readArrows after = .ok arrows) :
    readConnect text = (readName [source]).map fun name => .connect name arrows := by
  have names : readNames [source] = (readName [source]).map fun name => [name] := by
    have alone : pieces ',' [source] = [[source]] :=
      pieces_of_notMem (by simpa using legible.noComma.symm)
    rw [readNames, legible.own, alone, if_neg (by simp [legible.solid])]
    cases named : readName [source] <;>
      simp [named, bind, Except.bind, pure, Except.pure, Except.map]
  rw [readConnect, split]
  simp only
  rw [names]
  cases readName [source] with
  | error why => rfl
  | ok name =>
    simp only [Except.map]
    rw [read]

section

variable {source : Char} {arrows : List SpelledArrow} {rest : Text}

/-- What was written as a connection is read as one, as long as nothing but blanks changes behind its
delimiter. -/
theorem readConnect_spelled (legible : IsLegible source) (nonempty : arrows ≠ [])
    (legibleArrows : ∀ arrow ∈ arrows, arrow.IsLegible) (delimiter : Delimiter)
    (same : squeeze rest = squeeze (join [','] (arrows.map SpelledArrow.shown))) :
    readConnect (source :: (delimiter.shown ++ rest)) =
        (readName [source]).map (fun name => .connect name (arrows.map SpelledArrow.pair)) ∧
      readConnect (respaced (source :: (delimiter.shown ++ rest))) =
        (readName [source]).map fun name => .connect name (arrows.map SpelledArrow.pair) := by
  have found := afterDelimiter_shown delimiter rest
  have apart : (delimiter.shown ++ rest).head? ≠ some '>' := by
    rcases delimiter with ⟨left, right⟩ | ⟨left, right⟩ <;> cases left <;>
      simp [Delimiter.shown, spaces, List.replicate_succ]
  have kept : squeeze (rest.dropWhile isBlank) =
      squeeze (join [','] (arrows.map SpelledArrow.shown)) := by
    rw [← same, ← flatten_tokens, tokens_dropWhile, flatten_tokens]
  obtain ⟨firstToken, mark, delimits, tokensOfRest⟩ := tokens_of_afterDelimiter found
  have spacedAnew : tokens (source :: (delimiter.shown ++ rest)) =
      [source] :: mark :: tokens (rest.dropWhile isBlank) := by
    rw [firstToken source legible.solid, tokensOfRest]
  have more : tokens (rest.dropWhile isBlank) ≠ [] := by
    rw [ne_eq, tokens_eq_nil_iff, kept]
    exact squeeze_arrows_ne_nil nonempty legibleArrows
  constructor
  · exact readConnect_of_splitAtDelimiter legible
      (splitAtDelimiter_cons legible.solid apart found) (readArrows_spelled nonempty legibleArrows kept)
  · refine readConnect_of_splitAtDelimiter legible
      (splitAtDelimiter_respaced legible.solid delimits spacedAnew more) ?_
    refine readArrows_spelled nonempty legibleArrows ?_
    rw [← kept, ← flatten_tokens, tokens_dropWhile, flatten_tokens, squeeze_respaced]

end

end Command

end AutomataShell
