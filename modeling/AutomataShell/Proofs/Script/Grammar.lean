import AutomataShell.Proofs.Script.Agreement
import AutomataShell.Proofs.Script.Layout

/-! Which scripts expand. A script is refused for the first line that breaks a rule of its directive,
and else for a block that is open at its end; whether one is open there does not depend on what was
suppressed. -/

set_option autoImplicit false

namespace AutomataShell.Script

open Text

/-- The words that no token may be renamed from: the keywords of all commands. -/
def commandWords : List Text :=
  ["accept", "add", "connect", "create", "create_new", "execute", "exit", "export", "help", "import",
    "node_accept", "show"]

theorem isSome_ofKeyword_iff (word : Text) :
    (Verb.ofKeyword word).isSome = true ↔ word ∈ commandWords := by
  have same : commandWords = Verb.keywords.map Prod.fst := by decide
  rw [same, Verb.ofKeyword, List.mem_map]
  constructor
  · intro known
    obtain ⟨verb, found⟩ := Option.isSome_iff_exists.1 known
    exact ⟨_, Verb.mem_keywords_of_ofKeyword found, rfl⟩
  · rintro ⟨entry, member, rfl⟩
    rw [Option.isSome_iff_ne_none, ne_eq, List.lookup_eq_none_iff]
    exact fun unlisted => by simpa using unlisted entry member

def Directive.operandCount : Directive → Nat
  | .rename => 2
  | .define | .ifDefined | .ifUndefined => 1
  | .endBlock => 0

/-- What is wrong with a line after the lines before it. The end of a block always counts, any other
directive where it is not suppressed. -/
inductive Violation (before : List Text) (line : Text) : ScriptError → Prop where
  | operands {directive : Directive} (isDirective : directiveOf line = some directive)
      (inForce : directive = .endBlock ∨ ¬ Suppressed before)
      (miscounted : (operandsOf line).length ≠ directive.operandCount) :
      Violation before line (.operandCount directive line)
  | keyword {old new : Text} (isDirective : directiveOf line = some .rename)
      (inForce : ¬ Suppressed before) (operands : operandsOf line = [old, new])
      (known : lower old ∈ commandWords) : Violation before line (.renamesKeyword line)

/-- The rules for the directives of a script. -/
structure IsGrammatical (lines : List Text) : Prop where
  operands : ∀ before line after, lines = before ++ line :: after → ∀ directive,
    directiveOf line = some directive → directive = .endBlock ∨ ¬ Suppressed before →
      (operandsOf line).length = directive.operandCount
  keywords : ∀ before line after, lines = before ++ line :: after →
    directiveOf line = some .rename → ¬ Suppressed before →
      ∀ old ∈ (operandsOf line).head?, lower old ∉ commandWords
  closed : IsClosed lines

def IsSound (lines : List Text) : Prop :=
  ∀ before line after, lines = before ++ line :: after → ∀ why, ¬ Violation before line why

/-- The first line that breaks a rule, and its fault. -/
def FirstViolation (lines : List Text) (line : Text) (why : ScriptError) : Prop :=
  ∃ before after, lines = before ++ line :: after ∧ IsSound before ∧ Violation before line why

def ScriptError.Names (why : ScriptError) (line : Text) : Prop :=
  ∃ what : Text, why.message = what ++ "\n\tat command " ++ line

/-- The fault of a line, if it has one. -/
def faultOf (before : List Text) (line : Text) : Option ScriptError :=
  match directiveOf line with
  | none => none
  | some directive =>
    if directive ≠ .endBlock ∧ Suppressed before then
      none
    else if (operandsOf line).length ≠ directive.operandCount then
      some (.operandCount directive line)
    else
      match directive, operandsOf line with
      | .rename, [old, _] =>
        if commandWords.contains (lower old) then some (.renamesKeyword line) else none
      | _, _ => none

theorem violation_iff {before : List Text} {line : Text} {why : ScriptError} :
    Violation before line why ↔ faultOf before line = some why := by
  constructor
  · intro violation
    cases violation with
    | operands isDirective inForce miscounted =>
      simp only [faultOf, isDirective]
      rw [if_neg (fun held => inForce.elim held.1 fun free => free held.2), if_pos miscounted]
    | keyword isDirective inForce operands known =>
      simp only [faultOf, isDirective, operands]
      rw [if_neg fun held => inForce held.2, if_neg (by simp [Directive.operandCount]),
        if_pos (List.contains_iff_mem.2 known)]
  · intro fault
    unfold faultOf at fault
    split at fault
    · cases fault
    · rename_i directive isDirective
      split at fault
      · cases fault
      · rename_i looked
        have inForce : directive = .endBlock ∨ ¬ Suppressed before := by
          rwa [not_and_or, not_not] at looked
        split at fault
        · rename_i miscounted
          cases fault
          exact .operands isDirective inForce miscounted
        · split at fault
          · rename_i old new operands counted
            split at fault
            · rename_i known
              cases fault
              exact .keyword isDirective (inForce.resolve_left (by simp)) operands
                (List.contains_iff_mem.1 known)
            · cases fault
          · cases fault

theorem isSound_iff (lines : List Text) :
    IsSound lines ↔ ∀ place ∈ placed [] lines, faultOf place.1 place.2 = none := by
  constructor
  · rintro sound ⟨before, line⟩ member
    obtain ⟨_, after, rfl, rfl⟩ := mem_placed_iff.1 member
    rw [Option.eq_none_iff_forall_ne_some]
    exact fun why fault => sound before line after rfl why (violation_iff.2 fault)
  · rintro faultless before line after rfl why violation
    have isPlaced : (before, line) ∈ placed [] (before ++ line :: after) :=
      mem_placed_iff.2 ⟨before, after, rfl, rfl⟩
    rw [violation_iff, faultless _ isPlaced] at violation
    cases violation

instance (lines : List Text) : Decidable (IsSound lines) :=
  decidable_of_iff _ (isSound_iff lines).symm

instance (lines : List Text) : Decidable (IsClosed lines) :=
  inferInstanceAs (Decidable (∀ last ∈ (lines.filter marksBlock).getLast?, _))

theorem isSound_nil : IsSound [] := by
  simp [IsSound]

theorem isSound_concat (before : List Text) (line : Text) :
    IsSound (before ++ [line]) ↔ IsSound before ∧ ∀ why, ¬ Violation before line why := by
  constructor
  · intro sound
    refine ⟨?_, sound before line [] rfl⟩
    intro earlier other between split
    exact sound earlier other (between ++ [line]) (by simp [split])
  · intro sound earlier other between split
    obtain ⟨soundBefore, soundLine⟩ := sound
    rcases concat_eq_append_cons_iff.1 split with ⟨rfl, rfl, _⟩ | ⟨rest, _, sameBefore⟩
    · exact soundLine
    · exact soundBefore earlier other rest sameBefore

theorem isSound_or_firstViolation (lines : List Text) :
    IsSound lines ∨ ∃ line why, FirstViolation lines line why := by
  induction lines using List.reverseRecOn with
  | nil => exact Or.inl isSound_nil
  | append_singleton before line ih =>
    rcases ih with sound | ⟨other, why, earlier, after, rfl, violated⟩
    · by_cases violated : ∃ why, Violation before line why
      · obtain ⟨why, violation⟩ := violated
        exact Or.inr ⟨line, why, before, [], rfl, sound, violation⟩
      · exact Or.inl ((isSound_concat before line).2 ⟨sound, not_exists.1 violated⟩)
    · exact Or.inr ⟨other, why, earlier, after ++ [line], by simp, violated⟩

theorem isGrammatical_iff (lines : List Text) :
    IsGrammatical lines ↔ IsSound lines ∧ IsClosed lines := by
  constructor
  · intro grammatical
    refine ⟨?_, grammatical.closed⟩
    intro before line after split why violation
    cases violation with
    | operands isDirective inForce miscounted =>
      exact miscounted (grammatical.operands before line after split _ isDirective inForce)
    | keyword isDirective inForce operands known =>
      have unknown := grammatical.keywords before line after split isDirective inForce
      exact unknown _ (by rw [operands]; rfl) known
  · intro lawful
    obtain ⟨sound, closed⟩ := lawful
    have operands : ∀ before line after, lines = before ++ line :: after → ∀ directive,
        directiveOf line = some directive → directive = .endBlock ∨ ¬ Suppressed before →
          (operandsOf line).length = directive.operandCount := by
      intro before line after split directive isDirective inForce
      by_contra miscounted
      exact sound before line after split _ (.operands isDirective inForce miscounted)
    refine ⟨operands, ?_, closed⟩
    intro before line after split isDirective inForce old isOld known
    -- The operands were counted, so there is a second one.
    have counted := operands before line after split _ isDirective (Or.inr inForce)
    obtain ⟨first, new, same⟩ := List.length_eq_two.1 counted
    rw [same] at isOld
    cases isOld
    exact sound before line after split _ (.keyword isDirective inForce same known)

/-- There is only one place of a first violation. -/
theorem eq_of_first_violations {before rest earlier after : List Text} {line other : Text}
    {fault why : ScriptError} (split : before ++ line :: rest = earlier ++ other :: after)
    (sound : IsSound before) (soundEarlier : IsSound earlier)
    (violation : Violation before line fault) (otherViolation : Violation earlier other why) :
    before = earlier ∧ line = other := by
  -- Of two different places, the earlier one would lie among lines that are sound.
  rcases List.append_eq_append_iff.1 split with ⟨middle, same, sameRest⟩ | ⟨middle, same, sameRest⟩
  · cases middle with
    | nil => exact ⟨by simpa using same.symm, by simpa using (List.cons.inj sameRest).1⟩
    | cons next between =>
      cases (List.cons.inj sameRest).1
      exact absurd violation (soundEarlier before line between same fault)
  · cases middle with
    | nil => exact ⟨by simpa using same, by simpa using (List.cons.inj sameRest).1.symm⟩
    | cons next between =>
      cases (List.cons.inj sameRest).1
      exact absurd otherViolation (sound earlier other between same why)

theorem names_of_violation {before : List Text} {line : Text} {why : ScriptError}
    (violation : Violation before line why) : why.Names line := by
  cases violation with
  | operands => exact ⟨_, rfl⟩
  | keyword => exact ⟨"Commands cannot be overwritten.", rfl⟩

namespace Expansion

theorem obey_eq_error_iff (directive : Directive) (operands : List Text) (line : Text)
    (state : Expansion) (why : ScriptError) :
    state.obey directive operands line = .error why ↔
      operands.length ≠ directive.operandCount ∧ why = .operandCount directive line ∨
        ∃ old new, directive = .rename ∧ operands = [old, new] ∧
          lower old ∈ commandWords ∧ why = .renamesKeyword line := by
  unfold obey
  simp only [isSome_ofKeyword_iff]
  split
  · rename_i old new
    by_cases known : lower old ∈ commandWords
    · rw [if_pos known]
      constructor
      · intro refused
        cases refused
        exact Or.inr ⟨old, new, rfl, rfl, known, rfl⟩
      · rintro (⟨miscounted, _⟩ | ⟨_, _, _, _, _, rfl⟩)
        · exact absurd rfl miscounted
        · rfl
    · simp [known, Directive.operandCount]
  · simp [Directive.operandCount]
  · simp [Directive.operandCount]
  · simp [Directive.operandCount]
  · simp [Directive.operandCount]
  · rename_i noRename noDefine noIfDefined noIfUndefined noEnd
    -- With the right count, the directive would have been obeyed.
    have miscounted : operands.length ≠ directive.operandCount := by
      cases directive with
      | endBlock => simpa [Directive.operandCount] using noEnd rfl
      | rename =>
        rw [Directive.operandCount, ne_eq, List.length_eq_two]
        intro counted
        obtain ⟨old, new, same⟩ := counted
        exact noRename old new rfl same
      | define | ifDefined | ifUndefined =>
        rw [Directive.operandCount, ne_eq, List.length_eq_one_iff]
        intro counted
        obtain ⟨name, same⟩ := counted
        first
        | exact noDefine name rfl same
        | exact noIfDefined name rfl same
        | exact noIfUndefined name rfl same
    constructor
    · intro refused
      cases refused
      exact Or.inl ⟨miscounted, rfl⟩
    · rintro (⟨_, rfl⟩ | ⟨old, new, rfl, rfl, _⟩)
      · rfl
      · exact absurd rfl (noRename old new rfl)

variable {before : List Text} {state : Expansion}

theorem Agrees.step_eq_error_iff (agrees : state.Agrees before) (line : Text) (why : ScriptError) :
    state.step line = .error why ↔ Violation before line why := by
  rw [step_eq]
  constructor
  · intro refused
    split at refused
    · cases refused
    · rename_i directive isDirective
      split at refused
      · cases refused
      · rename_i held
        -- A directive is obeyed unless it is suppressed and no end of a block.
        have inForce : directive = .endBlock ∨ ¬ Suppressed before := by
          by_cases ends : directive = .endBlock
          · exact Or.inl ends
          · exact Or.inr fun inside => held (by simp [agrees.suppressed.2 inside, ends])
        rcases (obey_eq_error_iff _ _ _ _ _).1 refused with
          ⟨miscounted, rfl⟩ | ⟨old, new, rfl, operands, known, rfl⟩
        · exact .operands isDirective inForce miscounted
        · exact .keyword isDirective (inForce.resolve_left (by simp)) operands known
  · intro violation
    cases violation with
    | @operands directive isDirective inForce miscounted =>
      have obeyed : (state.suppressed && decide (directive ≠ .endBlock)) = false := by
        rcases inForce with rfl | inForce
        · simp
        · simp [Bool.eq_false_iff.2 (mt agrees.suppressed.1 inForce)]
      simp only [isDirective, obeyed, Bool.false_eq_true, if_false]
      exact (obey_eq_error_iff _ _ _ _ _).2 (Or.inl ⟨miscounted, rfl⟩)
    | @keyword old new isDirective inForce operands known =>
      have obeyed : state.suppressed = false :=
        Bool.eq_false_iff.2 (mt agrees.suppressed.1 inForce)
      simp only [isDirective, obeyed, Bool.false_and, Bool.false_eq_true, if_false]
      exact (obey_eq_error_iff _ _ _ _ _).2 (Or.inr ⟨old, new, rfl, operands, known, rfl⟩)

/-- Lines that follow sound ones fail for their first violation, or for a block left open. -/
theorem Agrees.run_fault_iff (agrees : state.Agrees before) (sound : IsSound before)
    (lines : List Text) (why : ScriptError) :
    (state.run lines).2 = some why ↔
      (∃ line, FirstViolation (before ++ lines) line why) ∨
        why = .unclosedBlock ∧ IsSound (before ++ lines) ∧ ¬ IsClosed (before ++ lines) := by
  induction lines generalizing before state with
  | nil =>
    have unviolated : ¬ ∃ line, FirstViolation before line why := by
      intro violated
      obtain ⟨line, earlier, after, rfl, _, violation⟩ := violated
      exact sound earlier line after rfl why violation
    rw [run, List.append_nil]
    cases isOpen : state.blockOpen with
    | false => simp [unviolated, agrees.closed.1 isOpen]
    | true =>
      have unclosed : ¬ IsClosed before := fun closed => by
        rw [agrees.closed.2 closed] at isOpen
        cases isOpen
      simp [unviolated, sound, unclosed, eq_comm]
  | cons line rest ih =>
    rw [run]
    cases stepped : state.step line with
    | ok next =>
      have soundLine : ∀ other, ¬ Violation before line other := by
        intro other violation
        rw [(agrees.step_eq_error_iff line other).2 violation] at stepped
        cases stepped
      rw [List.append_cons]
      exact ih (agrees.step stepped) ((isSound_concat before line).2 ⟨sound, soundLine⟩)
    | error fault =>
      -- The run ends with this line, and no earlier or other violation can be the first.
      have violation := (agrees.step_eq_error_iff line fault).1 stepped
      constructor
      · intro same
        cases same
        exact Or.inl ⟨line, before, rest, rfl, sound, violation⟩
      · intro fails
        rcases fails with
          ⟨other, earlier, after, split, soundEarlier, otherViolation⟩ | ⟨_, soundAll, _⟩
        · obtain ⟨rfl, rfl⟩ :=
            eq_of_first_violations split sound soundEarlier violation otherViolation
          have sameFault := (agrees.step_eq_error_iff line why).2 otherViolation
          rw [stepped] at sameFault
          cases sameFault
          rfl
        · exact absurd violation (soundAll before line rest rfl fault)

end Expansion

theorem preprocess_eq_error_iff (script : Text) (why : ScriptError) :
    preprocess script = .error why ↔ (expansion script).2 = some why := by
  unfold preprocess expand
  split
  · rename_i ran
    simp [ran, Except.map]
  · rename_i fault ran
    simp [ran, Except.map]

/-- A script expands exactly when its logical lines follow the rules of their directives. Otherwise
the first line that breaks one is named, or, if there is none, the end of a block is missing. -/
theorem preprocess_outcome (script : Text) :
    ∃ lines, (∀ others, HasLines script others ↔ others = lines) ∧
      ((∃ expanded, preprocess script = .ok expanded) ↔ IsGrammatical lines) ∧
      ∀ why, preprocess script = .error why ↔
        (∃ line, FirstViolation lines line why ∧ why.Names line) ∨
          why = .unclosedBlock ∧ IsSound lines ∧ ¬ IsClosed lines := by
  have refused (why : ScriptError) :=
    (preprocess_eq_error_iff script why).trans
      (Expansion.agrees_start.run_fault_iff isSound_nil (logicalLines script) why)
  rw [List.nil_append] at refused
  refine ⟨logicalLines script, fun others => hasLines_iff, ?_, fun why => ?_⟩
  · rw [isGrammatical_iff]
    cases outcome : preprocess script with
    | ok expanded =>
      have unrefused (why : ScriptError) := mt (refused why).2 (by simp [outcome])
      have sound : IsSound (logicalLines script) := by
        apply (isSound_or_firstViolation _).resolve_right
        intro violated
        obtain ⟨line, why, first⟩ := violated
        exact unrefused why (Or.inl ⟨line, first⟩)
      refine iff_of_true ⟨expanded, rfl⟩ ⟨sound, ?_⟩
      by_contra unclosed
      exact unrefused .unclosedBlock (Or.inr ⟨rfl, sound, unclosed⟩)
    | error why =>
      apply iff_of_false (by simp)
      intro grammatical
      obtain ⟨sound, closed⟩ := grammatical
      rcases (refused why).1 outcome with
        ⟨line, before, after, split, _, violation⟩ | ⟨_, _, unclosed⟩
      · exact sound before line after split why violation
      · exact unclosed closed
  · rw [refused]
    refine or_congr_left (exists_congr fun line => ?_)
    rw [iff_self_and]
    intro first
    obtain ⟨before, after, _, _, violation⟩ := first
    exact names_of_violation violation

/-- An operand too many, an alias that is renamed behind a tab, the end of a block with an operand where
other directives are not looked at, and a block that only a comment would end. -/
theorem preprocess_outcome_of_violations :
    preprocess "add x;#Define\na\tb;#namedef add y" =
        .error (.operandCount .define "#Define a b") ∧
      preprocess "add x;#namedef\tCreate_New y;#define" =
        .error (.renamesKeyword "#namedef Create_New y") ∧
      preprocess "#ifdef a;#define;#ENDIF b" = .error (.operandCount .endBlock "#ENDIF b") ∧
      preprocess "#ifndef a;add x/*;#endif*/" = .error .unclosedBlock := by
  have refused {script : Text} (lines : List Text) {why : ScriptError}
      (same : logicalLines script = lines)
      (fault : (∃ line, FirstViolation lines line why ∧ why.Names line) ∨
        why = .unclosedBlock ∧ IsSound lines ∧ ¬ IsClosed lines) :
      preprocess script = .error why := by
    obtain ⟨found, unique, _, outcome⟩ := preprocess_outcome script
    obtain rfl := (unique lines).1 (hasLines_iff.2 same.symm)
    exact (outcome why).2 fault
  refine ⟨?_, ?_, ?_, ?_⟩
  · refine refused ["add x", "#Define a b", "#namedef add y"] (by decide +kernel) (.inl ?_)
    refine ⟨_, ⟨["add x"], _, rfl, by decide +kernel, ?_⟩, _, rfl⟩
    exact violation_iff.2 (by decide +kernel)
  · refine refused ["add x", "#namedef Create_New y", "#define"] (by decide +kernel) (.inl ?_)
    refine ⟨_, ⟨["add x"], _, rfl, by decide +kernel, ?_⟩, "Commands cannot be overwritten.", rfl⟩
    exact violation_iff.2 (by decide +kernel)
  · refine refused ["#ifdef a", "#define", "#ENDIF b"] (by decide +kernel) (.inl ?_)
    refine ⟨_, ⟨["#ifdef a", "#define"], _, rfl, by decide +kernel, ?_⟩, _, rfl⟩
    exact violation_iff.2 (by decide +kernel)
  · refine refused ["#ifndef a", "add x"] (by decide +kernel) (.inr ⟨rfl, ?_, ?_⟩) <;>
      decide +kernel

end AutomataShell.Script
