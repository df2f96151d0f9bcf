import AutomataShell.Command.Arguments
import AutomataShell.Proofs.Text.Capitals

/-! Arguments in which ASCII letters have changed their case. They are read as the same command, or refused
alike: only an unknown kind keeps its spelling until it is told. -/

set_option autoImplicit false

namespace AutomataShell

open Text

/-- A kind that is none is told in capitals, however it was spelled. -/
theorem Malformed.message_unknownKind_small (kind : Text) :
    (unknownKind (small kind)).message = (unknownKind kind).message := by
  change upper (small kind) ++ _ = upper kind ++ _
  rw [upper_small]

namespace Command

theorem readNames_small (arguments : Text) : readNames (small arguments) = readNames arguments := by
  unfold readNames
  rw [all_isBlank_small, lower_small]

theorem readArrows_small (arguments : Text) :
    readArrows (small arguments) = readArrows arguments := by
  rw [readArrows, lower_small, readArrows]

theorem afterDelimiter_eq (text : Text) :
    afterDelimiter text =
      match text.dropWhile isBlank with
      | c :: d :: rest =>
        if c = '-' ∧ d = '>' then
          some (rest.dropWhile isBlank)
        else
          match rest with
          | [] => none
          | blank :: more =>
            if text.head?.any isBlank && (c == 't' || c == 'T') && (d == 'o' || d == 'O') &&
                isBlank blank then
              some (more.dropWhile isBlank)
            else
              none
      | _ => none := by
  unfold afterDelimiter
  rcases text.dropWhile isBlank with _ | ⟨c, _ | ⟨d, rest⟩⟩
  · rfl
  · simp
  · by_cases arrow : c = '-' ∧ d = '>'
    · obtain ⟨rfl, rfl⟩ := arrow
      simp
    · simp only [if_neg arrow]
      split
      · rename_i same
        simp only [List.cons.injEq] at same
        exact absurd ⟨same.1, same.2.1⟩ arrow
      · rename_i same
        simp only [List.cons.injEq] at same
        obtain ⟨rfl, rfl, rfl⟩ := same
        rfl
      · rename_i noWord
        cases rest with
        | nil => rfl
        | cons blank more => exact absurd rfl (noWord c d blank more)

theorem afterDelimiter_small (text : Text) :
    afterDelimiter (small text) = (afterDelimiter text).map small := by
  have blankFirst : (small text).head?.any isBlank = text.head?.any isBlank := by
    cases text with
    | nil => rfl
    | cons c rest => exact isBlank_toLower c
  have isDash (c : Char) : c.toLower = '-' ↔ c = '-' := by
    simpa using congrArg (· = true) (apply_toLower (fun d => d == '-') (by decide) c)
  have isHead (c : Char) : c.toLower = '>' ↔ c = '>' := by
    simpa using congrArg (· = true) (apply_toLower (fun d => d == '>') (by decide) c)
  have isT (c : Char) : (c.toLower == 't' || c.toLower == 'T') = (c == 't' || c == 'T') :=
    apply_toLower (fun d => d == 't' || d == 'T') (by decide) c
  have isO (c : Char) : (c.toLower == 'o' || c.toLower == 'O') = (c == 'o' || c == 'O') :=
    apply_toLower (fun d => d == 'o' || d == 'O') (by decide) c
  rw [afterDelimiter_eq, afterDelimiter_eq, dropWhile_small, blankFirst]
  rcases text.dropWhile isBlank with _ | ⟨c, _ | ⟨d, rest⟩⟩
  · rfl
  · rfl
  · simp only [small, List.map_cons, isDash, isHead, isT, isO]
    split
    · exact congrArg some (dropWhile_small rest)
    · cases rest with
      | nil => rfl
      | cons blank more =>
        simp only [List.map_cons, isBlank_toLower]
        split
        · exact congrArg some (dropWhile_small more)
        · rfl

theorem splitAtDelimiter_small (text : Text) :
    splitAtDelimiter (small text) =
      (splitAtDelimiter text).map fun parts => (small parts.1, small parts.2) := by
  induction text with
  | nil => rfl
  | cons c rest ih =>
    have found := afterDelimiter_small (c :: rest)
    rw [show small (c :: rest) = c.toLower :: small rest from rfl] at found ⊢
    rw [splitAtDelimiter, splitAtDelimiter, found, ih]
    cases afterDelimiter (c :: rest) with
    | some after => rfl
    | none => cases splitAtDelimiter rest <;> rfl

theorem readConnect_small (arguments : Text) :
    readConnect (small arguments) = readConnect arguments := by
  rw [readConnect, readConnect, splitAtDelimiter_small]
  cases splitAtDelimiter arguments with
  | none => rfl
  | some parts =>
    simp only [Option.map_some, readNames_small, readArrows_small]

theorem readDisplay_small (arguments : Text) :
    readDisplay (small arguments) = readDisplay arguments := by
  rw [readDisplay, readDisplay, trim_small, lower_small, readNames_small]

theorem readCreate_small (arguments : Text) :
    readCreate (small arguments) = readCreate arguments ∨
      ∃ kind, readCreate arguments = .error (.unknownKind kind) ∧
        readCreate (small arguments) = .error (.unknownKind (small kind)) := by
  rw [readCreate, readCreate, headWord_small]
  rcases headWord arguments with ⟨kind, _ | ⟨c, letters⟩⟩
  · exact .inl rfl
  · have sameLetters : readNames (c.toLower :: small letters) = readNames (c :: letters) :=
      readNames_small (c :: letters)
    rw [show small (c :: letters) = c.toLower :: small letters from rfl]
    simp only [lower_small, sameLetters]
    cases Kind.ofName (lower kind) with
    | none => exact .inr ⟨kind, rfl, rfl⟩
    | some known => exact .inl rfl

/-- Whatever its arguments are, a verb without a path reads them alike in either case. -/
theorem read_small {verb : Verb} (pathless : verb.takesPath = false) (arguments : Text) :
    Command.read verb (small arguments) = Command.read verb arguments ∨
      ∃ kind, Command.read verb arguments = .error (.unknownKind kind) ∧
        Command.read verb (small arguments) = .error (.unknownKind (small kind)) := by
  cases verb with
  | exportFile | importFile => cases pathless
  | create => exact readCreate_small arguments
  | add | accept => exact .inl (by rw [Command.read, Command.read, readNames_small])
  | connect => exact .inl (readConnect_small arguments)
  | execute => exact .inl (by rw [Command.read, Command.read, lower_small])
  | display => exact .inl (readDisplay_small arguments)
  | help => exact .inl (by rw [Command.read, Command.read, trim_small, lower_small])
  | exit => exact .inl rfl

end Command

end AutomataShell
