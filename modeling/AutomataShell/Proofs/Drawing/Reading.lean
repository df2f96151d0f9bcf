import AutomataShell.Text.Basic

/-! Tokens of a text in the DOT language, as much of the language as drawings use. A string ends at
the first quote without a backslash before it, and a backslash with a quote behind it stands for the
quote. -/

set_option autoImplicit false

namespace AutomataShell.Dot

inductive Token where
  | word (letters : Text)
  | quoted (content : Text)
  | arrow
  | mark (c : Char)
  deriving DecidableEq, Repr

/-- What words consist of. -/
def isLetter (c : Char) : Bool :=
  c.isAlphanum || c = '_' || 128 ≤ c.toNat

/-- Puts a word before tokens, unless it has no letters. -/
def endWord : Text → List Token → List Token
  | [], tokens => tokens
  | c :: letters, tokens => .word (c :: letters) :: tokens

mutual

/-- The tokens of a text behind the letters of a word, which may go on in it. -/
def tokensBehind (letters : Text) : Text → Option (List Token)
  | [] => some (endWord letters [])
  | '\x22' :: rest => (readString rest).map fun read => endWord letters (.quoted read.1 :: read.2)
  | '-' :: '>' :: rest => (tokensBehind [] rest).map fun tokens => endWord letters (.arrow :: tokens)
  | c :: rest =>
    if isLetter c then
      tokensBehind (letters ++ [c]) rest
    else if c.isWhitespace then
      (tokensBehind [] rest).map (endWord letters)
    else
      (tokensBehind [] rest).map fun tokens => endWord letters (.mark c :: tokens)

/-- The content of a string behind its opening quote, and the tokens behind the string. -/
def readString : Text → Option (Text × List Token)
  | [] => none
  | '\x22' :: rest => (tokensBehind [] rest).map fun tokens => ([], tokens)
  | '\\' :: '\x22' :: rest => (readString rest).map fun read => ('\x22' :: read.1, read.2)
  | c :: rest => (readString rest).map fun read => (c :: read.1, read.2)

end

/-- The tokens of a text, unless it ends inside a string. -/
def tokens (text : Text) : Option (List Token) :=
  tokensBehind [] text

def Token.content : Token → Option Text
  | .quoted content => some content
  | _ => none

/-- The strings of a text, unless the last is not closed. -/
def quotedStrings (text : Text) : Option (List Text) :=
  (tokens text).map (List.filterMap Token.content)

/-- A text that stands for itself between quotes. -/
def IsClean (content : Text) : Prop :=
  '\x22' ∉ content ∧ content.getLast? ≠ some '\\'

instance (content : Text) : Decidable (IsClean content) :=
  inferInstanceAs (Decidable (_ ∧ _))

theorem isClean_cons_iff (c : Char) (content : Text) :
    IsClean (c :: content) ↔ c ≠ '\x22' ∧ (content = [] → c ≠ '\\') ∧ IsClean content := by
  cases content with
  | nil => simp [IsClean, eq_comm]
  | cons d rest => simp [IsClean, eq_comm, and_assoc]

theorem readString_cons {c : Char} {rest : Text} (notQuote : c ≠ '\x22')
    (notEscape : c = '\\' → ∀ more, rest ≠ '\x22' :: more) :
    readString (c :: rest) = (readString rest).map fun read => (c :: read.1, read.2) := by
  rw [readString]
  · exact notQuote
  · exact fun more isBackslash same => notEscape isBackslash more same

/-- A clean text is read from between quotes as it is. -/
theorem readString_append {content : Text} (clean : IsClean content) (rest : Text) :
    readString (content ++ '\x22' :: rest) = (tokens rest).map fun others => (content, others) := by
  induction content with
  | nil => simp [readString, tokens]
  | cons c content ih =>
    obtain ⟨notQuote, last, cleanRest⟩ := (isClean_cons_iff c content).1 clean
    have notEscape : c = '\\' → ∀ more, content ++ '\x22' :: rest ≠ '\x22' :: more := by
      intro isBackslash more same
      cases content with
      | nil => exact last rfl isBackslash
      | cons d content =>
        cases same
        exact cleanRest.1 List.mem_cons_self
    rw [List.cons_append, readString_cons notQuote notEscape, ih cleanRest, Option.map_map]
    rfl

/-- Only a clean text is read from between quotes as it is. -/
theorem isClean_of_readString {content rest : Text} {others : List Token}
    (found : readString (content ++ '\x22' :: rest) = some (content, others)) : IsClean content := by
  induction content generalizing others with
  | nil => simp [IsClean]
  | cons c content ih =>
    rw [List.cons_append] at found
    have notQuote : c ≠ '\x22' := by
      rintro rfl
      simp [readString] at found
    have notEscape : c = '\\' → ∀ more, content ++ '\x22' :: rest ≠ '\x22' :: more := by
      rintro rfl more same
      rw [same] at found
      simp [readString] at found
    rw [readString_cons notQuote notEscape] at found
    obtain ⟨⟨inside, left⟩, foundInside, same⟩ := Option.map_eq_some_iff.1 found
    cases same
    refine (isClean_cons_iff c _).2 ⟨notQuote, ?_, ih foundInside⟩
    rintro rfl isBackslash
    exact notEscape isBackslash rest rfl

theorem endWord_append (letters : Text) (first second : List Token) :
    endWord letters (first ++ second) = endWord letters first ++ second := by
  cases letters <;> rfl

/-- What is put before the tokens of two texts is put before those of the first. -/
theorem map_bind_append {put : List Token → List Token}
    (putAppend : ∀ first second, put (first ++ second) = put first ++ second)
    (first second : Option (List Token)) :
    (first.bind fun read => second.map (read ++ ·)).map put =
      (first.map put).bind fun read => second.map (read ++ ·) := by
  cases first with
  | none => rfl
  | some read => cases second <;> simp [putAppend]

/-- A text without quotes whose end is the end of a token. -/
def IsPlain (text : Text) : Prop :=
  '\x22' ∉ text ∧ text.getLast?.all (fun c => !isLetter c && c != '-') = true

instance (text : Text) : Decidable (IsPlain text) :=
  inferInstanceAs (Decidable (_ ∧ _))

theorem isPlain_cons_iff (c : Char) (text : Text) :
    IsPlain (c :: text) ↔
      c ≠ '\x22' ∧ (text = [] → isLetter c = false ∧ c ≠ '-') ∧ IsPlain text := by
  cases text with
  | nil => simp [IsPlain, @eq_comm _ '\x22' c]
  | cons d rest => simp [IsPlain, @eq_comm _ '\x22' c, and_assoc]

theorem tokensBehind_cons {c : Char} {rest : Text} (notQuote : c ≠ '\x22')
    (notArrow : c = '-' → ∀ more, rest ≠ '>' :: more) (letters : Text) :
    tokensBehind letters (c :: rest) =
      if isLetter c then
        tokensBehind (letters ++ [c]) rest
      else if c.isWhitespace then
        (tokensBehind [] rest).map (endWord letters)
      else
        (tokensBehind [] rest).map fun tokens => endWord letters (.mark c :: tokens) := by
  rw [tokensBehind]
  · exact notQuote
  · exact fun more isDash same => notArrow isDash more same

/-- A plain text is read on its own, whatever is behind it. -/
theorem tokensBehind_append (letters plain rest : Text) (isPlain : IsPlain plain)
    (begun : plain = [] → letters = []) :
    tokensBehind letters (plain ++ rest) =
      (tokensBehind letters plain).bind fun first => (tokens rest).map (first ++ ·) := by
  -- An arrow takes two characters at once, so the recursion is on the length of the text.
  match plain with
  | [] => simp [begun rfl, tokensBehind, endWord, tokens]
  | c :: plain =>
    obtain ⟨notQuote, last, plainRest⟩ := (isPlain_cons_iff c plain).1 isPlain
    by_cases points : c = '-' ∧ ∃ more, plain = '>' :: more
    · obtain ⟨rfl, more, rfl⟩ := points
      have plainMore : IsPlain more := ((isPlain_cons_iff _ _).1 plainRest).2.2
      rw [List.cons_append, List.cons_append, tokensBehind, tokensBehind,
        tokensBehind_append [] more rest plainMore fun _ => rfl]
      exact map_bind_append (fun first => endWord_append letters (.arrow :: first)) _ _
    · have notArrow : c = '-' → ∀ more, plain ≠ '>' :: more :=
        fun isDash more same => points ⟨isDash, more, same⟩
      have notArrowEither : c = '-' → ∀ more, plain ++ rest ≠ '>' :: more := by
        intro isDash more same
        cases plain with
        | nil => exact (last rfl).2 isDash
        | cons d plain =>
          cases same
          exact notArrow isDash plain rfl
      rw [List.cons_append, tokensBehind_cons notQuote notArrowEither,
        tokensBehind_cons notQuote notArrow]
      by_cases letter : isLetter c = true
      · have goesOn : plain = [] → letters ++ [c] = [] := by
          intro none
          rw [(last none).1] at letter
          cases letter
        rw [if_pos letter, if_pos letter, tokensBehind_append _ plain rest plainRest goesOn]
      · rw [if_neg letter, if_neg letter, tokensBehind_append [] plain rest plainRest fun _ => rfl]
        split
        · exact map_bind_append (endWord_append letters) _ _
        · exact map_bind_append (fun first => endWord_append letters (.mark c :: first)) _ _

/-- A text that is read as the tokens under a condition, whatever is behind it. Without the condition
not even its strings are read so. What else is kept of the tokens is left open, so that strings as well
as all identifiers can be compared. -/
structure ReadsAs (text : Text) (read : List Token) (condition : Prop) : Prop where
  tokens_append : condition → ∀ rest, tokens (text ++ rest) = (tokens rest).map (read ++ ·)
  holds : ∀ keep : Token → Option Text, (∀ content, keep (.quoted content) = some content) →
    ∀ rest all more, tokens (text ++ rest) = some all →
      all.filterMap keep = read.filterMap keep ++ more → condition

theorem tokens_quoted (content rest : Text) :
    tokens ("\x22" ++ content ++ "\x22" ++ rest) =
      (readString (content ++ '\x22' :: rest)).map fun read => .quoted read.1 :: read.2 := by
  simp [tokens, tokensBehind, endWord]

namespace ReadsAs

variable {text other : Text} {read others : List Token} {condition further : Prop}

theorem plain (isPlain : IsPlain text) (found : tokens text = some read) :
    ReadsAs text read True where
  tokens_append _ rest := by
    have alone : tokensBehind [] text = some read := found
    rw [tokens, tokensBehind_append [] text rest isPlain fun _ => rfl, alone, Option.bind_some]
  holds _ _ _ _ _ _ _ := trivial

theorem quoted (content : Text) :
    ReadsAs ("\x22" ++ content ++ "\x22") [.quoted content] (IsClean content) where
  tokens_append clean rest := by
    rw [tokens_quoted, readString_append clean, Option.map_map]
    rfl
  holds keep keeps rest all more found same := by
    rw [tokens_quoted, Option.map_eq_some_iff] at found
    obtain ⟨⟨inside, others⟩, foundInside, rfl⟩ := found
    have sameContent : inside = content := by
      simpa [keeps] using congrArg List.head? same
    rw [sameContent] at foundInside
    exact isClean_of_readString foundInside

theorem append (first : ReadsAs text read condition) (second : ReadsAs other others further) :
    ReadsAs (text ++ other) (read ++ others) (condition ∧ further) where
  tokens_append both rest := by
    rw [List.append_assoc, first.tokens_append both.1, second.tokens_append both.2, Option.map_map]
    simp [Function.comp_def]
  holds keep keeps rest all more found same := by
    rw [List.append_assoc] at found
    rw [List.filterMap_append, List.append_assoc] at same
    have firstHolds : condition := first.holds keep keeps _ _ _ found same
    rw [first.tokens_append firstHolds, Option.map_eq_some_iff] at found
    obtain ⟨left, foundLeft, rfl⟩ := found
    rw [List.filterMap_append] at same
    exact ⟨firstHolds, second.holds keep keeps _ _ _ foundLeft (List.append_cancel_left same)⟩

theorem congr (reads : ReadsAs text read condition) (same : condition ↔ further) :
    ReadsAs text read further :=
  propext same ▸ reads

theorem flatMap {α : Type} (items : List α) {text : α → Text} {read : α → List Token}
    {condition : α → Prop} (each : ∀ item, ReadsAs (text item) (read item) (condition item)) :
    ReadsAs (items.flatMap text) (items.flatMap read) (∀ item ∈ items, condition item) := by
  induction items with
  | nil => exact (plain (by simp [IsPlain]) rfl).congr (by simp)
  | cons item items ih => exact ((each item).append ih).congr (by simp)

theorem tokens_eq (reads : ReadsAs text read condition) (holds : condition) :
    tokens text = some read := by
  simpa [tokens, tokensBehind, endWord] using reads.tokens_append holds []

/-- A text has the strings that it is read as just under its condition. -/
theorem filterMap_tokens_iff (reads : ReadsAs text read condition) {keep : Token → Option Text}
    (keeps : ∀ content, keep (.quoted content) = some content) :
    (tokens text).map (List.filterMap keep) = some (read.filterMap keep) ↔ condition := by
  constructor
  · intro same
    obtain ⟨all, found, kept⟩ := Option.map_eq_some_iff.1 same
    exact reads.holds keep keeps [] all [] (by simpa using found) (by simpa using kept)
  · intro holds
    rw [reads.tokens_eq holds, Option.map_some]

end ReadsAs

end AutomataShell.Dot
