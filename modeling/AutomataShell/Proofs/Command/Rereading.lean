import AutomataShell.Proofs.Command.Reading
import AutomataShell.Proofs.Script.Spelling
import AutomataShell.Proofs.Text.Pieces

/-! Arguments that were read are read alike once their tokens are spaced anew. Only a capital sigma
may come out differently, because its lower case depends on where the words end. -/

set_option autoImplicit false

namespace AutomataShell.Command

open Script Text

theorem squeeze_lower_congr {first second : Text} (noSigma : 'Σ' ∉ first)
    (same : squeeze second = squeeze first) : squeeze (lower second) = squeeze (lower first) := by
  -- A sigma is no blank, so it would stand in the first text too.
  have noneInSecond : 'Σ' ∉ second := by
    intro member
    have kept : 'Σ' ∈ squeeze second := List.mem_filter.2 ⟨member, by decide⟩
    rw [same] at kept
    exact noSigma (List.mem_filter.1 kept).1
  rw [squeeze_lower noneInSecond, squeeze_lower noSigma, same]

theorem readName_squeeze (piece : Text) : readName (squeeze piece) = readName piece := by
  unfold readName
  rw [squeeze_squeeze]

theorem readArrow_squeeze (piece : Text) : readArrow (squeeze piece) = readArrow piece := by
  unfold readArrow
  rw [squeeze_squeeze]

/-- Pieces are read alike from texts that differ in blanks only. -/
theorem mapM_pieces_congr {α : Type} {read : Text → Except Malformed α}
    (squeezed : ∀ piece, read (squeeze piece) = read piece) {first second : Text}
    (same : squeeze second = squeeze first) :
    (pieces ',' second).mapM read = (pieces ',' first).mapM read := by
  have throughSqueeze (text : Text) :
      (pieces ',' text).mapM read = (pieces ',' (squeeze text)).mapM read := by
    rw [← map_squeeze_pieces (by decide), List.mapM_map]
    congr 1
    funext piece
    exact (squeezed piece).symm
  rw [throughSqueeze second, same, ← throughSqueeze first]

theorem readNames_congr {first second : Text} (noSigma : 'Σ' ∉ first)
    (same : squeeze second = squeeze first) : readNames second = readNames first := by
  have blank : second.all isBlank = true ↔ first.all isBlank = true := by
    rw [← squeeze_eq_nil_iff, ← squeeze_eq_nil_iff, same]
  unfold readNames
  simp only [blank]
  rw [mapM_pieces_congr readName_squeeze (squeeze_lower_congr noSigma same)]

theorem readArrows_congr {first second : Text} (noSigma : 'Σ' ∉ first)
    (same : squeeze second = squeeze first) : readArrows second = readArrows first :=
  mapM_pieces_congr readArrow_squeeze (squeeze_lower_congr noSigma same)

theorem eq_singleton_of_mapM {Reason α β : Type} {read : α → Except Reason β} {list : List α} {b : β}
    (succeeded : list.mapM read = .ok [b]) : ∃ a, list = [a] ∧ read a = .ok b := by
  rcases list with _ | ⟨first, _ | ⟨next, rest⟩⟩
  · cases succeeded
  · refine ⟨first, rfl, ?_⟩
    rw [List.mapM_cons] at succeeded
    cases readFirst : read first with
    | error why => simp [readFirst, bind, Except.bind] at succeeded
    | ok c => simpa [readFirst, bind, Except.bind, pure, Except.pure] using succeeded
  · rw [List.mapM_cons, List.mapM_cons] at succeeded
    cases readFirst : read first <;> cases readNext : read next <;>
      cases readRest : rest.mapM read <;>
      simp [readFirst, readNext, readRest, bind, Except.bind, pure, Except.pure] at succeeded

/-- A single name is a single character, apart from blanks. -/
theorem squeeze_of_readNames {text : Text} {name : Char} (noSigma : 'Σ' ∉ text)
    (read : readNames text = .ok [name]) : ∃ c, squeeze text = [c] := by
  unfold readNames at read
  split at read
  · cases read
  · obtain ⟨piece, alone, readPiece⟩ := eq_singleton_of_mapM read
    have whole := join_pieces ',' (lower text)
    rw [alone, join] at whole
    have lowered : squeeze (lower text) = [name] := by
      unfold readName at readPiece
      rw [← whole]
      split at readPiece
      · cases readPiece
      · rename_i c single
        split at readPiece
        · cases readPiece
        · split at readPiece
          · cases readPiece
          · cases readPiece
            exact single
      · cases readPiece
    rw [squeeze_lower noSigma] at lowered
    -- Every character has a lower case, so one letter comes from one character.
    generalize squeeze text = kept at lowered ⊢
    rcases kept with _ | ⟨c, _ | ⟨d, rest⟩⟩
    · cases lowered
    · exact ⟨c, rfl⟩
    · have first := List.length_pos_iff.2 (lowerChar_ne_nil c)
      have second := List.length_pos_iff.2 (lowerChar_ne_nil d)
      have total := congrArg List.length lowered
      simp only [List.flatMap_cons, List.length_append, List.length_singleton] at total
      omega

theorem tokens_kind {kind : Kind} {word : Text} (isWord : IsWord word)
    (known : Kind.ofName (lower word) = some kind) : tokens word = [word] := by
  have named : lower word = kind.name := by
    unfold Kind.ofName at known
    have matched := List.find?_some known
    exact (beq_iff_eq.1 matched).symm
  -- What tokens are told apart by stands in the name of no kind, whatever its case.
  have foreign : [',', ':', '-'].all (fun mark => lowerChar mark == [mark] && mark != 'Σ' &&
      !Kind.deterministic.name.contains mark && !Kind.nondeterministic.name.contains mark) =
        true := by
    decide
  have apart (mark : Char) (isMark : mark ∈ [',', ':', '-']) : mark ∉ word := by
    intro member
    have facts := List.all_eq_true.1 foreign mark isMark
    simp only [Bool.and_eq_true, beq_iff_eq, bne_iff_ne] at facts
    have inName := mem_lower facts.1.1.1 facts.1.1.2 member
    rw [named] at inName
    cases kind <;> simp [inName] at facts
  exact tokens_of_plain isWord
    (.of_notMem (apart ',' (by simp)) (apart ':' (by simp)) (apart '-' (by simp)))

theorem read_create {list : List Text} (areWords : ∀ word ∈ list, IsWord word)
    (noSigma : 'Σ' ∉ join " " list) {command : Command}
    (read : readCreate (join " " list) = .ok command) :
    readCreate (respaced (join " " list)) = .ok command := by
  rcases list with _ | ⟨kind, letters⟩
  · cases read
  · have wordsOfLetters := fun other member => areWords other (List.mem_cons_of_mem kind member)
    have noneInLetters : 'Σ' ∉ join " " letters := mt (mem_join_cons kind) noSigma
    unfold readCreate at read
    rw [headWord_join areWords] at read
    split at read
    · cases read
    · rename_i word rest some same
      cases same
      split at read
      · cases read
      · rename_i known knownKind
        have alone := tokens_kind (areWords kind List.mem_cons_self) knownKind
        have kept : respaced (join " " letters) ≠ [] := by
          rw [ne_eq, respaced_eq_nil_iff, squeeze_eq_nil_iff, ← trim_eq_nil_iff,
            trim_join wordsOfLetters]
          exact some
        unfold readCreate
        rw [headWord_respaced alone]
        split
        · rename_i none
          exact absurd (Prod.mk.inj none).2 kept
        · rename_i sameKind sameRest _ same
          cases same
          rw [knownKind]
          simp only
          rw [readNames_congr noneInLetters (squeeze_respaced _), read]

theorem afterDelimiter_cons_of_isBlank {c : Char} (blank : isBlank c = true) {text after : Text}
    (found : afterDelimiter text = some after) : afterDelimiter (c :: text) = some after := by
  have skipped : (c :: text).dropWhile isBlank = text.dropWhile isBlank :=
    List.dropWhile_cons_of_pos blank
  unfold afterDelimiter at found ⊢
  rw [skipped]
  split at found
  · exact found
  · split at found
    · rename_i isWord
      simp only [Bool.and_eq_true] at isWord
      rw [if_pos (by simp [blank, isWord]), found]
    · cases found
  · cases found

theorem afterDelimiter_of_blank {text before after : Text}
    (split : splitAtDelimiter text = some (before, after)) (blank : squeeze before = []) :
    afterDelimiter text = some after := by
  -- Blanks in front do not matter to a delimiter, so one that comes after them comes at once.
  induction text generalizing before with
  | nil => cases split
  | cons c rest ih =>
    cases found : afterDelimiter (c :: rest) with
    | some other =>
      simp only [splitAtDelimiter, found, Option.some.injEq, Prod.mk.injEq] at split
      rw [split.2]
    | none =>
      simp only [splitAtDelimiter, found, Option.map_eq_some_iff, Prod.exists, Prod.mk.injEq] at split
      obtain ⟨others, _, splitRest, rfl, rfl⟩ := split
      rw [squeeze_cons] at blank
      split at blank
      · rename_i isBlank
        rw [afterDelimiter_cons_of_isBlank isBlank (ih splitRest blank)] at found
        cases found
      · cases blank

/-- With one character before it, a delimiter comes right after that character. -/
theorem splitAtDelimiter_of_single {c d : Char} {rest before after : Text}
    (solid : isBlank c = false) (split : splitAtDelimiter (c :: rest) = some (before, after))
    (single : squeeze before = [d]) :
    before = [c] ∧ afterDelimiter rest = some after := by
  cases found : afterDelimiter (c :: rest) with
  | some other =>
    simp only [splitAtDelimiter, found, Option.some.injEq, Prod.mk.injEq] at split
    rw [← split.1] at single
    cases single
  | none =>
    simp only [splitAtDelimiter, found, Option.map_eq_some_iff, Prod.exists, Prod.mk.injEq] at split
    obtain ⟨others, _, splitRest, rfl, rfl⟩ := split
    rw [squeeze_cons, solid, if_neg Bool.false_ne_true] at single
    have foundRest := afterDelimiter_of_blank splitRest (List.cons_eq_cons.1 single).2
    refine ⟨?_, foundRest⟩
    cases rest with
    | nil => cases splitRest
    | cons e rest =>
      simp only [splitAtDelimiter, foundRest, Option.some.injEq, Prod.mk.injEq] at splitRest
      rw [← splitRest.1]

/-- A delimiter that comes right after a character parts the text there, unless the character makes
an arrow with what follows. -/
theorem splitAtDelimiter_cons {c : Char} (solid : isBlank c = false) {text after : Text}
    (apart : text.head? ≠ some '>') (found : afterDelimiter text = some after) :
    splitAtDelimiter (c :: text) = some ([c], after) := by
  -- The word of a delimiter needs a blank in front, so it cannot start at the character.
  have notYet : afterDelimiter (c :: text) = none := by
    have stays : (c :: text).dropWhile isBlank = c :: text :=
      List.dropWhile_cons_of_neg (by simp [solid])
    unfold afterDelimiter
    rw [stays]
    split
    · rename_i same
      rw [(List.cons_eq_cons.1 same).2] at apart
      exact absurd rfl apart
    · rw [if_neg (by simp [solid])]
    · rfl
  cases text with
  | nil => cases found
  | cons d rest => simp [splitAtDelimiter, notYet, found]

theorem tokens_cons_of_next_isBlank {c : Char} (solid : isBlank c = false) {text : Text}
    (next : text.head?.any isBlank = true) : tokens (c :: text) = [c] :: tokens text := by
  cases text with
  | nil => cases next
  | cons d rest =>
    have blank : isBlank d = true := by simpa using next
    have split := tokens_append_cons blank [c] rest
    rw [tokens_singleton solid] at split
    rw [tokens_cons_of_isBlank blank rest]
    exact split

/-- A token that is read as a delimiter between single spaces. -/
def IsDelimiter (mark : Text) : Prop :=
  ∀ rest, afterDelimiter (' ' :: (mark ++ ' ' :: rest)) = some (rest.dropWhile isBlank)

theorem isDelimiter_arrow : IsDelimiter ['-', '>'] := by
  intro rest
  have dash : isBlank '-' = false := by decide
  simp [afterDelimiter, dash]

theorem isDelimiter_word {t o : Char} (isT : t = 't' ∨ t = 'T') (isO : o = 'o' ∨ o = 'O') :
    IsDelimiter [t, o] := by
  intro rest
  have small : isBlank 't' = false := by decide
  have capital : isBlank 'T' = false := by decide
  rcases isT with rfl | rfl <;> rcases isO with rfl | rfl <;>
    simp [afterDelimiter, small, capital]

theorem tokens_cons_of_arrow {c : Char} (solid : isBlank c = false) {text rest : Text}
    (arrow : text.dropWhile isBlank = '-' :: '>' :: rest) :
    tokens (c :: text) = [c] :: tokens text := by
  by_cases next : text.head?.any isBlank = true
  · exact tokens_cons_of_next_isBlank solid next
  · -- Without a blank in between, the arrow follows at once.
    have stays : text.dropWhile isBlank = text := by
      cases text with
      | nil => rfl
      | cons d rest => exact List.dropWhile_cons_of_neg (by simpa using next)
    have split := isMark_arrow.tokens_append [c] rest
    rw [tokens_singleton solid] at split
    rw [← stays, arrow]
    exact split.trans (congrArg _ (isMark_arrow.tokens_mark_append rest).symm)

/-- A delimiter is a token of its own, and stays one with single spaces around it. -/
theorem tokens_of_afterDelimiter {text after : Text} (found : afterDelimiter text = some after) :
    (∀ c, isBlank c = false → tokens (c :: text) = [c] :: tokens text) ∧
      ∃ mark, IsDelimiter mark ∧ tokens text = mark :: tokens after := by
  unfold afterDelimiter at found
  split at found
  · rename_i rest arrow
    cases found
    refine ⟨fun c solid => tokens_cons_of_arrow solid arrow, ['-', '>'], isDelimiter_arrow, ?_⟩
    rw [tokens_dropWhile rest, ← tokens_dropWhile, arrow]
    exact isMark_arrow.tokens_mark_append rest
  · rename_i t o blank rest _ same
    split at found
    · rename_i isWord
      cases found
      simp only [Bool.and_eq_true, Bool.or_eq_true, beq_iff_eq] at isWord
      obtain ⟨⟨⟨next, isT⟩, isO⟩, ends⟩ := isWord
      have alone : tokens [t, o] = [[t, o]] := by
        rcases isT with rfl | rfl <;> rcases isO with rfl | rfl <;> decide
      have split := tokens_append_cons ends [t, o] rest
      rw [alone] at split
      refine ⟨fun c solid => tokens_cons_of_next_isBlank solid next, [t, o],
        isDelimiter_word isT isO, ?_⟩
      rw [tokens_dropWhile rest, ← tokens_dropWhile, same]
      exact split
    · cases found
  · cases found

theorem mem_of_splitAtDelimiter {text before after : Text}
    (split : splitAtDelimiter text = some (before, after)) {c : Char} (member : c ∈ before) :
    c ∈ text := by
  induction text generalizing before with
  | nil => cases split
  | cons d rest ih =>
    cases found : afterDelimiter (d :: rest) with
    | some other =>
      simp only [splitAtDelimiter, found, Option.some.injEq, Prod.mk.injEq] at split
      rw [← split.1] at member
      cases member
    | none =>
      simp only [splitAtDelimiter, found, Option.map_eq_some_iff, Prod.exists, Prod.mk.injEq] at split
      obtain ⟨others, _, splitRest, rfl, rfl⟩ := split
      rcases List.mem_cons.1 member with same | inOthers
      · exact same ▸ List.mem_cons_self
      · exact List.mem_cons_of_mem d (ih splitRest inOthers)

/-- The last tokens of a text hold nothing that the text does not hold. -/
theorem notMem_of_tokens_eq {c : Char} (solid : isBlank c = false) {text after : Text}
    {before : List Text} (split : tokens text = before ++ tokens after) (free : c ∉ text) :
    c ∉ after := by
  intro member
  have kept : c ∈ squeeze after := List.mem_filter.2 ⟨member, by simp [solid]⟩
  rw [← flatten_tokens] at kept
  have inTokens : c ∈ (tokens text).flatten := by
    rw [split, List.flatten_append]
    exact List.mem_append_right _ kept
  rw [flatten_tokens] at inTokens
  exact free (List.mem_filter.1 inTokens).1

theorem tokens_ne_nil_of_readArrows {text : Text} (noSigma : 'Σ' ∉ text)
    {arrows : List (Char × Char)} (read : readArrows text = .ok arrows) : tokens text ≠ [] := by
  intro none
  have blank : squeeze [] = squeeze text := by
    rw [← flatten_tokens text, none]
    rfl
  rw [← readArrows_congr noSigma blank] at read
  cases read

/-- A single source is a token, and its delimiter is the next one. -/
theorem splitAtDelimiter_respaced {c : Char} (solid : isBlank c = false) {rest after : Text}
    {mark : Text} (delimits : IsDelimiter mark)
    (split : tokens (c :: rest) = [c] :: mark :: tokens after) (more : tokens after ≠ []) :
    splitAtDelimiter (respaced (c :: rest)) =
      some ([c], (respaced after).dropWhile isBlank) := by
  have joined : respaced (c :: rest) = c :: ' ' :: (mark ++ ' ' :: respaced after) := by
    rw [respaced, split, join_cons, join_cons, if_neg more, if_neg (by simp)]
    rfl
  rw [joined]
  exact splitAtDelimiter_cons solid (by simp) (delimits (respaced after))

theorem read_connect {list : List Text} (areWords : ∀ word ∈ list, IsWord word)
    (noSigma : 'Σ' ∉ join " " list) {command : Command}
    (read : readConnect (join " " list) = .ok command) :
    readConnect (respaced (join " " list)) = .ok command := by
  rcases list with _ | ⟨word, list⟩
  · cases read
  · obtain ⟨c, more, same⟩ := List.exists_cons_of_ne_nil (areWords word List.mem_cons_self).1
    have solid : isBlank c = false :=
      (areWords word List.mem_cons_self).2 c (same ▸ List.mem_cons_self)
    obtain ⟨rest, whole⟩ : ∃ rest, join " " (word :: list) = c :: rest := by
      rw [join_cons, same]
      exact ⟨_, rfl⟩
    rw [whole] at read noSigma ⊢
    unfold readConnect at read
    split at read
    · cases read
    · rename_i before after split
      split at read
      · cases read
      · rename_i source readBefore
        obtain ⟨arrows, readAfter, rfl⟩ := map_eq_ok_iff.1 read
        -- The source takes up one character, so its delimiter comes right behind that.
        obtain ⟨d, single⟩ := squeeze_of_readNames
          (fun member => noSigma (mem_of_splitAtDelimiter split member)) readBefore
        obtain ⟨rfl, found⟩ := splitAtDelimiter_of_single solid split single
        obtain ⟨firstToken, mark, delimits, tokensOfRest⟩ := tokens_of_afterDelimiter found
        have spacedAnew : tokens (c :: rest) = [c] :: mark :: tokens after := by
          rw [firstToken c solid, tokensOfRest]
        have noneAfter : 'Σ' ∉ after := by
          have lastTokens : tokens (c :: rest) = [[c], mark] ++ tokens after := spacedAnew
          exact notMem_of_tokens_eq (by decide) lastTokens noSigma
        have sameArrows : readArrows ((respaced after).dropWhile isBlank) = readArrows after := by
          apply readArrows_congr noneAfter
          rw [← flatten_tokens, tokens_dropWhile, flatten_tokens, squeeze_respaced]
        have kept := tokens_ne_nil_of_readArrows noneAfter readAfter
        unfold readConnect
        rw [splitAtDelimiter_respaced solid delimits spacedAnew kept]
        simp only
        rw [readBefore]
        simp only
        rw [sameArrows, readAfter]
        rfl
      · cases read

/-- Spacing the tokens of arguments anew changes no command that a replay repeats. -/
theorem read_respaced {verb : Verb} (replayed : verb.isReplayed = true) {list : List Text}
    (areWords : ∀ word ∈ list, IsWord word) (noSigma : 'Σ' ∉ join " " list) {command : Command}
    (read : Command.read verb (join " " list) = .ok command) :
    Command.read verb (respaced (join " " list)) = .ok command := by
  have sameNames := readNames_congr noSigma (squeeze_respaced (join " " list))
  cases verb with
  | exit | exportFile | help | importFile | display => cases replayed
  | create => exact read_create areWords noSigma read
  | connect => exact read_connect areWords noSigma read
  | add | accept =>
    simp only [Command.read] at read ⊢
    rw [sameNames, read]
  | execute =>
    simp only [Command.read] at read ⊢
    rw [squeeze_lower_congr noSigma (squeeze_respaced _), read]

end AutomataShell.Command
