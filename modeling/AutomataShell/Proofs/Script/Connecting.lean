import AutomataShell.Proofs.Command.Arrows
import AutomataShell.Proofs.Script.Joining

/-! The line of a connection as a script has it. Its names and letters may be the marks that scripts are
taken apart by, but no comment opens in it and nothing in it ends a line. -/

set_option autoImplicit false

namespace AutomataShell

open Text

namespace Script

theorem uncommented_of_notMem {text : Text} (free : '/' ∉ text ∨ '*' ∉ text) :
    ¬ ['/', '*'] <:+: text := by
  intro inside
  rcases free with noSlash | noStar
  · exact noSlash (inside.subset (by simp))
  · exact noStar (inside.subset (by simp))

/-- A text with one character besides a few that open no comment. -/
theorem uncommented_of_single (c : Char) (others : List Char) {text : Text}
    (inside : ∀ d ∈ text, d = c ∨ d ∈ others) (noSlash : '/' ∉ others) (noStar : '*' ∉ others) :
    ¬ ['/', '*'] <:+: text := by
  apply uncommented_of_notMem
  by_contra both
  rw [not_or, not_not, not_not] at both
  -- The character would be both.
  have isSlash := (inside '/' both.1).resolve_right noSlash
  have isStar := (inside '*' both.2).resolve_right noStar
  rw [← isStar] at isSlash
  revert isSlash
  decide

end Script

open Script

theorem isVerbWord_connect : IsVerbWord (Verb.name .connect) := by
  unfold IsVerbWord
  decide

section Line

variable {source : Char} {delimiter : Delimiter} {arrows : List SpelledArrow}

theorem trimEnd_connection (before : Text) (nonempty : arrows ≠ [])
    (legible : ∀ arrow ∈ arrows, arrow.IsLegible) :
    trimEnd (before ++ join [','] (arrows.map SpelledArrow.shown)) =
      before ++ trimEnd (join [','] (arrows.map SpelledArrow.shown)) := by
  have some := Command.squeeze_arrows_ne_nil nonempty legible
  rw [trimEnd_append, if_neg]
  rwa [trimEnd_eq_nil_iff, ← squeeze_eq_nil_iff]

/-- The line begins with the verb, and what follows it is the connection up to its last blanks. -/
theorem trim_connectLine (nonempty : arrows ≠ []) (legible : ∀ arrow ∈ arrows, arrow.IsLegible) :
    trim (connectLine source delimiter arrows) =
      Verb.name .connect ++ ' ' :: (source :: (delimiter.shown ++
        trimEnd (join [','] (arrows.map SpelledArrow.shown)))) := by
  have apart : connectLine source delimiter arrows = Verb.name .connect ++
      ((' ' :: source :: delimiter.shown) ++ join [','] (arrows.map SpelledArrow.shown)) := by
    rw [connectLine, connection]
    rfl
  rw [apart, trim_append_of_isWord isVerbWord_connect.isWord, trimEnd_connection _ nonempty legible]
  rfl

theorem mem_connectLine {c : Char} (member : c ∈ connectLine source delimiter arrows) :
    c ∈ Verb.name .connect ∨ c ∈ [' ', '-', '>', 't', 'o', ':', ','] ∨ c = source ∨
      ∃ arrow ∈ arrows, c = arrow.letter ∨ c = arrow.target := by
  simp only [connectLine, connection, List.mem_append, List.mem_cons] at member
  rcases member with inVerb | isSpace | isSource | inDelimiter | inArrows
  · exact .inl inVerb
  · simp [isSpace]
  · simp [isSource]
  · have inMarks := Delimiter.mem_shown inDelimiter
    simp only [List.mem_cons, List.not_mem_nil, or_false] at inMarks ⊢
    tauto
  · rcases mem_join inArrows with isComma | ⟨part, inParts, inPart⟩
    · simp [List.mem_singleton.1 isComma]
    · obtain ⟨arrow, known, rfl⟩ := List.mem_map.1 inParts
      rcases SpelledArrow.mem_shown inPart with isSpace | isColon | isName
      · simp [isSpace]
      · simp [isColon]
      · exact .inr (.inr (.inr ⟨arrow, known, isName⟩))

/-- A line of legible characters holds no break and no mark that ends a line. -/
theorem unbroken_connectLine (legible : Text.IsLegible source)
    (legibleArrows : ∀ arrow ∈ arrows, arrow.IsLegible) {c : Char}
    (member : c ∈ connectLine source delimiter arrows) :
    c ≠ ';' ∧ c ≠ '\r' ∧ c ≠ '\n' ∧ c ≠ '\t' := by
  have legibleChar (d : Char) (isLegible : Text.IsLegible d) :
      d ≠ ';' ∧ d ≠ '\r' ∧ d ≠ '\n' ∧ d ≠ '\t' := by
    refine ⟨isLegible.noSemicolon, ?_, ?_, ?_⟩ <;>
    · rintro rfl
      have solid := isLegible.solid
      revert solid
      decide
  have fixedMarks : (Verb.name .connect ++ [' ', '-', '>', 't', 'o', ':', ',']).all (fun d =>
      d != ';' && d != '\r' && d != '\n' && d != '\t') = true := by
    decide
  have fixedChar (d : Char)
      (isFixed : d ∈ Verb.name .connect ++ [' ', '-', '>', 't', 'o', ':', ',']) :
      d ≠ ';' ∧ d ≠ '\r' ∧ d ≠ '\n' ∧ d ≠ '\t' := by
    simpa [and_assoc] using List.all_eq_true.1 fixedMarks d isFixed
  rcases mem_connectLine member with inVerb | inMarks | rfl | ⟨arrow, known, rfl | rfl⟩
  · exact fixedChar c (List.mem_append_left _ inVerb)
  · exact fixedChar c (List.mem_append_right _ inMarks)
  · exact legibleChar _ legible
  · exact legibleChar _ (legibleArrows arrow known).letter
  · exact legibleChar _ (legibleArrows arrow known).target

theorem uncommented_arrow {before : Text} (free : ∀ c ∈ before, c ∈ [' ', '>', 'o'])
    (arrow : SpelledArrow) : ¬ ['/', '*'] <:+: before ++ arrow.shown := by
  have parted : before ++ arrow.shown =
      (before ++ spaces arrow.before ++ arrow.letter :: spaces arrow.left) ++ ':' ::
        (spaces arrow.right ++ arrow.target :: spaces arrow.after) := by
    simp [SpelledArrow.shown]
  rw [parted]
  apply uncommented_append_cons (by decide) (by decide)
  · refine uncommented_of_single arrow.letter [' ', '>', 'o']
      (fun d member => ?_) (by decide) (by decide)
    simp only [spaces, List.mem_append, List.mem_cons, List.mem_replicate] at member
    rcases member with (inBefore | ⟨_, rfl⟩) | rfl | ⟨_, rfl⟩
    · exact .inr (free d inBefore)
    · simp
    · simp
    · simp
  · refine uncommented_of_single arrow.target [' ']
      (fun d member => ?_) (by decide) (by decide)
    simp only [spaces, List.mem_append, List.mem_cons, List.mem_replicate] at member
    rcases member with ⟨_, rfl⟩ | rfl | ⟨_, rfl⟩ <;> simp

theorem uncommented_arrows {before : Text} (free : ∀ c ∈ before, c ∈ [' ', '>', 'o'])
    (arrows : List SpelledArrow) :
    ¬ ['/', '*'] <:+: before ++ join [','] (arrows.map SpelledArrow.shown) := by
  induction arrows generalizing before with
  | nil =>
    apply uncommented_of_notMem
    rw [List.map_nil, join, List.append_nil]
    refine .inl fun member => ?_
    have isFree := free '/' member
    revert isFree
    decide
  | cons arrow rest ih =>
    rcases rest with _ | ⟨next, rest⟩
    · exact uncommented_arrow free arrow
    · have parted : before ++ join [','] ((arrow :: next :: rest).map SpelledArrow.shown) =
          (before ++ arrow.shown) ++ ',' ::
            ([] ++ join [','] ((next :: rest).map SpelledArrow.shown)) := by
        simp [join]
      rw [parted]
      exact uncommented_append_cons (by decide) (by decide) (uncommented_arrow free arrow)
        (ih fun c none => by cases none)

/-- Names and letters are too far apart to open a comment. -/
theorem uncommented_connectLine (source : Char) (delimiter : Delimiter)
    (arrows : List SpelledArrow) : ¬ ['/', '*'] <:+: connectLine source delimiter arrows := by
  have sourceAlone (count : Nat) : ¬ ['/', '*'] <:+: source :: spaces count := by
    refine uncommented_of_single source [' '] (fun d member => ?_) (by decide)
      (by decide)
    simp only [spaces, List.mem_cons, List.mem_replicate] at member
    rcases member with rfl | ⟨_, rfl⟩ <;> simp
  have afterMark (mark : Char) (isMark : mark ∈ ['>', 'o']) (count : Nat) :
      ∀ c ∈ mark :: spaces count, c ∈ [' ', '>', 'o'] := by
    intro c member
    simp only [spaces, List.mem_cons, List.mem_replicate, List.not_mem_nil, or_false] at member isMark ⊢
    rcases isMark with rfl | rfl <;> tauto
  rw [connectLine]
  apply uncommented_append_cons (by decide) (by decide)
  · exact uncommented_of_notMem (.inl (by decide))
  · rcases delimiter with ⟨left, right⟩ | ⟨left, right⟩
    · have parted : connection source (.arrow left right) arrows =
          (source :: spaces left) ++ '-' :: (('>' :: spaces right) ++
            join [','] (arrows.map SpelledArrow.shown)) := by
        simp [connection, Delimiter.shown]
      rw [parted]
      exact uncommented_append_cons (by decide) (by decide) (sourceAlone left)
        (uncommented_arrows (afterMark '>' (by simp) right) arrows)
    · have parted : connection source (.word left right) arrows =
          (source :: spaces (left + 1)) ++ 't' :: (('o' :: spaces (right + 1)) ++
            join [','] (arrows.map SpelledArrow.shown)) := by
        simp [connection, Delimiter.shown]
      rw [parted]
      exact uncommented_append_cons (by decide) (by decide) (sourceAlone (left + 1))
        (uncommented_arrows (afterMark 'o' (by simp) (right + 1)) arrows)

end Line

end AutomataShell
