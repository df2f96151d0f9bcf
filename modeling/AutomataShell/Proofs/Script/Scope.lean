import Mathlib.Data.List.Induction
import AutomataShell.Script.Expansion

/-! The scope of directives, told from the lines alone: which lines are suppressed, which names are
defined where, and what a token stands for. Each is a statement about the lines before a line. -/

set_option autoImplicit false

namespace AutomataShell.Script

open Text

/-- What the first word of a line has to be for a directive, whatever its case. -/
def directiveKeywords : List (Text × Directive) :=
  [("#namedef", .rename), ("#define", .define), ("#ifdef", .ifDefined), ("#ifndef", .ifUndefined),
    ("#endif", .endBlock)]

def directiveOf (line : Text) : Option Directive :=
  directiveKeywords.lookup (lower ((words line).headD []))

def operandsOf (line : Text) : List Text :=
  (words line).tail

-- Each of the three looks at lines before it only, so they can be told for ever fewer lines.
mutual

/-- A line is suppressed when a condition has failed before it and no block has ended in between. -/
def Suppressed (before : List Text) : Prop :=
  ∃ earlier condition between, ∃ _ : before = earlier ++ condition :: between,
    Fails earlier condition ∧ ∀ line ∈ between, directiveOf line ≠ some .endBlock
termination_by (before.length, 0)
decreasing_by simp_all only [List.length_append, List.length_cons]; omega

/-- Whether a condition that follows some lines is one and does not hold there. -/
def Fails (earlier : List Text) (condition : Text) : Prop :=
  ∃ name, operandsOf condition = [name] ∧
    (directiveOf condition = some .ifDefined ∧ ¬ Defined earlier name ∨
      directiveOf condition = some .ifUndefined ∧ Defined earlier name)
termination_by (earlier.length, 1)

/-- A name is defined by a definition that is not suppressed itself. -/
def Defined (before : List Text) (name : Text) : Prop :=
  ∃ earlier line between, ∃ _ : before = earlier ++ line :: between,
    directiveOf line = some .define ∧ operandsOf line = [name] ∧ ¬ Suppressed earlier
termination_by (before.length, 0)
decreasing_by simp_all only [List.length_append, List.length_cons]; omega

end

/-- The expansion knows the same keywords. -/
theorem ofKeyword_eq_lookup (word : Text) :
    Directive.ofKeyword word = directiveKeywords.lookup word := by
  cases known : directiveKeywords.lookup word with
  | some directive =>
    have listed : ∀ entry ∈ directiveKeywords, Directive.ofKeyword entry.1 = some entry.2 := by
      decide
    obtain ⟨before, after, split, _⟩ := List.lookup_eq_some_iff.1 known
    exact listed (word, directive) (split ▸ List.mem_append_right before List.mem_cons_self)
  | none =>
    have unlisted : ∀ entry ∈ directiveKeywords, word ≠ entry.1 := by
      simpa using List.lookup_eq_none_iff.1 known
    have keywords : ∀ directive ∈ Directive.all, (directive.keyword, directive) ∈ directiveKeywords := by
      decide
    rw [Directive.ofKeyword, List.find?_eq_none]
    intro directive member
    simpa using (unlisted _ (keywords directive member)).symm

theorem concat_eq_append_cons_iff {before earlier between : List Text} {last line : Text} :
    before ++ [last] = earlier ++ line :: between ↔
      before = earlier ∧ last = line ∧ between = [] ∨
        ∃ rest, between = rest ++ [last] ∧ before = earlier ++ line :: rest := by
  constructor
  · intro same
    rcases List.eq_nil_or_concat between with rfl | ⟨rest, other, rfl⟩
    · obtain ⟨sameBefore, sameLast⟩ := List.append_inj' same rfl
      exact Or.inl ⟨sameBefore, List.singleton_inj.1 sameLast, rfl⟩
    · have regrouped : before ++ [last] = (earlier ++ line :: rest) ++ [other] := by
        simpa using same
      obtain ⟨sameBefore, sameLast⟩ := List.append_inj' regrouped rfl
      rw [List.singleton_inj.1 sameLast]
      exact Or.inr ⟨rest, by simp, sameBefore⟩
  · rintro (⟨rfl, rfl, rfl⟩ | ⟨rest, rfl, rfl⟩) <;> simp

theorem not_suppressed_nil : ¬ Suppressed [] := by
  unfold Suppressed
  simp

theorem not_defined_nil (name : Text) : ¬ Defined [] name := by
  unfold Defined
  simp

theorem directiveOf_of_fails {earlier : List Text} {condition : Text}
    (fails : Fails earlier condition) :
    directiveOf condition = some .ifDefined ∨ directiveOf condition = some .ifUndefined := by
  unfold Fails at fails
  obtain ⟨_, _, ⟨isCondition, _⟩ | ⟨isCondition, _⟩⟩ := fails
  · exact Or.inl isCondition
  · exact Or.inr isCondition

theorem suppressed_concat (before : List Text) (line : Text) :
    Suppressed (before ++ [line]) ↔
      directiveOf line ≠ some .endBlock ∧ (Suppressed before ∨ Fails before line) := by
  constructor
  · intro suppressed
    unfold Suppressed at suppressed
    obtain ⟨earlier, condition, between, split, fails, unended⟩ := suppressed
    -- Either the new line is the condition, or the condition came before it.
    rcases concat_eq_append_cons_iff.1 split with ⟨rfl, rfl, rfl⟩ | ⟨rest, rfl, rfl⟩
    · refine ⟨?_, Or.inr fails⟩
      rcases directiveOf_of_fails fails with isCondition | isCondition <;> simp [isCondition]
    · refine ⟨unended line (by simp), Or.inl ?_⟩
      unfold Suppressed
      exact ⟨earlier, condition, rest, rfl, fails, fun other member => unended other (by simp [member])⟩
  · intro inside
    obtain ⟨unended, suppressed | fails⟩ := inside
    · unfold Suppressed at suppressed
      obtain ⟨earlier, condition, between, rfl, fails, unendedBefore⟩ := suppressed
      unfold Suppressed
      refine ⟨earlier, condition, between ++ [line], by simp, fails, ?_⟩
      intro other member
      rcases List.mem_append.1 member with inside | isLine
      · exact unendedBefore other inside
      · rwa [List.mem_singleton.1 isLine]
    · unfold Suppressed
      exact ⟨before, line, [], rfl, fails, by simp⟩

theorem defined_concat (before : List Text) (line name : Text) :
    Defined (before ++ [line]) name ↔
      Defined before name ∨
        directiveOf line = some .define ∧ operandsOf line = [name] ∧ ¬ Suppressed before := by
  constructor
  · intro defined
    unfold Defined at defined
    obtain ⟨earlier, definition, between, split, inForce⟩ := defined
    rcases concat_eq_append_cons_iff.1 split with ⟨rfl, rfl, rfl⟩ | ⟨rest, rfl, rfl⟩
    · exact Or.inr inForce
    · unfold Defined
      exact Or.inl ⟨earlier, definition, rest, rfl, inForce⟩
  · intro known
    rcases known with defined | inForce
    · unfold Defined at defined
      obtain ⟨earlier, definition, between, rfl, inForce⟩ := defined
      unfold Defined
      exact ⟨earlier, definition, between ++ [line], by simp, inForce⟩
    · unfold Defined
      exact ⟨before, line, [], rfl, inForce⟩

-- The same with the latest line in front, where it can be decided line by line.
mutual

/-- Whether a line is suppressed, from the lines before it with the latest first. -/
def suppressedAfter : List Text → Bool
  | [] => false
  | line :: earlier =>
    match directiveOf line, operandsOf line with
    | some .endBlock, _ => false
    | some .ifDefined, [name] => suppressedAfter earlier || !definedAfter name earlier
    | some .ifUndefined, [name] => suppressedAfter earlier || definedAfter name earlier
    | _, _ => suppressedAfter earlier

def definedAfter (name : Text) : List Text → Bool
  | [] => false
  | line :: earlier =>
    definedAfter name earlier ||
      directiveOf line == some .define && operandsOf line == [name] && !suppressedAfter earlier

end

theorem suppressedAfter_reverse (before : List Text) :
    (suppressedAfter before.reverse = true ↔ Suppressed before) ∧
      ∀ name, definedAfter name before.reverse = true ↔ Defined before name := by
  induction before using List.reverseRecOn with
  | nil => simp [suppressedAfter, definedAfter, not_suppressed_nil, not_defined_nil]
  | append_singleton before line ih =>
    obtain ⟨suppressed, defined⟩ := ih
    have undefined (name : Text) :
        definedAfter name before.reverse = false ↔ ¬ Defined before name := by
      rw [← defined, Bool.not_eq_true]
    rw [List.reverse_append, List.reverse_singleton, List.singleton_append]
    constructor
    · rw [suppressed_concat, Fails, suppressedAfter]
      split <;> simp_all only [Bool.or_eq_true, Bool.not_eq_eq_eq_not, Bool.not_true]
      · simp
      · simp
      · simp
      · rename_i unended noIfDefined noIfUndefined
        refine ⟨fun held => ⟨fun ended => unended ended, Or.inl held⟩, ?_⟩
        rintro ⟨_, held | ⟨name, single, ⟨isCondition, _⟩ | ⟨isCondition, _⟩⟩⟩
        · exact held
        · exact absurd single (noIfDefined name isCondition)
        · exact absurd single (noIfUndefined name isCondition)
    · intro name
      simp only [definedAfter, defined_concat, Bool.or_eq_true, Bool.and_eq_true, beq_iff_eq,
        defined, ← suppressed, Bool.not_eq_true, Bool.not_eq_eq_eq_not, Bool.not_true, and_assoc]

instance (before : List Text) : Decidable (Suppressed before) :=
  decidable_of_iff _ (suppressedAfter_reverse before).1

instance (before : List Text) (name : Text) : Decidable (Defined before name) :=
  decidable_of_iff _ ((suppressedAfter_reverse before).2 name)

/-- Each line beside the lines before it. -/
def placed : List Text → List Text → List (List Text × Text)
  | _, [] => []
  | before, line :: rest => (before, line) :: placed (before ++ [line]) rest

def inForce (lines : List Text) : List (List Text × Text) :=
  (placed [] lines).filter fun place => ¬ Suppressed place.1

/-- The token that a line renames, and its replacement. -/
def renamingOf (line : Text) : Option (Text × Text) :=
  match directiveOf line, operandsOf line with
  | some .rename, [old, new] => some (old, new)
  | _, _ => none

/-- The renamings that are in force after some lines. -/
def renamings (before : List Text) : List (Text × Text) :=
  (inForce before).filterMap fun place => renamingOf place.2

/-- What a token is replaced with: the latest renaming of it counts. -/
def standIn (before : List Text) (token : Text) : Text :=
  ((renamings before).reverse.lookup token).getD token

/-- The command that a line stands for. A file name keeps its spelling. -/
def entry (before : List Text) (line : Text) : Text :=
  let keyword := line.takeWhile (· ≠ ' ')
  let rest := line.dropWhile (· ≠ ' ')
  if lower keyword = "import" ∨ lower keyword = "export" then
    if rest.all isBlank then keyword else keyword ++ " " ++ trim rest
  else
    join " " ((tokens line).map (standIn before))

/-- The commands of a script, from its lines: one for each line that is in force and no directive. -/
def entries (lines : List Text) : List Text :=
  ((inForce lines).filter fun place => directiveOf place.2 = none).map fun place =>
    entry place.1 place.2

/-- Whether a line opens or ends a block. -/
def marksBlock (line : Text) : Bool :=
  directiveOf line == some .ifDefined || directiveOf line == some .ifUndefined ||
    directiveOf line == some .endBlock

/-- Whether the last of the lines that mark blocks, if there is any, ends one. -/
def IsClosed (lines : List Text) : Prop :=
  ∀ last ∈ (lines.filter marksBlock).getLast?, directiveOf last = some .endBlock

theorem placed_append (before first second : List Text) :
    placed before (first ++ second) = placed before first ++ placed (before ++ first) second := by
  induction first generalizing before with
  | nil => simp [placed]
  | cons line rest ih => simp [placed, ih]

theorem mem_placed_iff {start lines before : List Text} {line : Text} :
    (before, line) ∈ placed start lines ↔
      ∃ between after, lines = between ++ line :: after ∧ before = start ++ between := by
  constructor
  · intro member
    induction lines generalizing start with
    | nil => cases member
    | cons first rest ih =>
      rcases List.mem_cons.1 member with same | inRest
      · cases same
        exact ⟨[], rest, rfl, by simp⟩
      · obtain ⟨between, after, rfl, rfl⟩ := ih inRest
        exact ⟨first :: between, after, rfl, by simp⟩
  · rintro ⟨between, after, rfl, rfl⟩
    rw [placed_append]
    exact List.mem_append_right _ List.mem_cons_self

theorem inForce_concat (before : List Text) (line : Text) :
    inForce (before ++ [line]) =
      inForce before ++ if Suppressed before then [] else [(before, line)] := by
  rw [inForce, placed_append, List.filter_append, ← inForce]
  by_cases suppressed : Suppressed before <;> simp [placed, suppressed]

theorem entries_concat (before : List Text) (line : Text) :
    entries (before ++ [line]) =
      entries before ++
        if Suppressed before ∨ directiveOf line ≠ none then [] else [entry before line] := by
  unfold entries
  rw [inForce_concat]
  by_cases suppressed : Suppressed before <;> by_cases plain : directiveOf line = none <;>
    simp [suppressed, plain]

theorem entries_concat_of_directive {line : Text} (isDirective : directiveOf line ≠ none)
    (before : List Text) : entries (before ++ [line]) = entries before := by
  rw [entries_concat, if_pos (Or.inr isDirective), List.append_nil]

theorem renamings_concat (before : List Text) (line : Text) :
    renamings (before ++ [line]) =
      renamings before ++ if Suppressed before then [] else (renamingOf line).toList := by
  unfold renamings
  rw [inForce_concat, List.filterMap_append]
  by_cases suppressed : Suppressed before
  · simp [suppressed]
  · cases renamed : renamingOf line <;> simp [suppressed, renamed]

theorem standIn_concat_of_other {line : Text} (other : renamingOf line = none)
    (before : List Text) (token : Text) : standIn (before ++ [line]) token = standIn before token := by
  rw [standIn, renamings_concat, other, standIn]
  simp

theorem isClosed_concat (before : List Text) (line : Text) :
    IsClosed (before ++ [line]) ↔
      if marksBlock line then directiveOf line = some .endBlock else IsClosed before := by
  unfold IsClosed
  cases marks : marksBlock line <;> simp [marks]

/-- Where a line is suppressed, a block is open. -/
theorem not_isClosed_of_suppressed {before : List Text} (suppressed : Suppressed before) :
    ¬ IsClosed before := by
  unfold Suppressed at suppressed
  obtain ⟨earlier, condition, between, rfl, fails, unended⟩ := suppressed
  have opens := directiveOf_of_fails fails
  have marks : marksBlock condition = true := by
    rcases opens with opens | opens <;> simp [marksBlock, opens]
  intro closed
  -- From the condition on, the last line that marks a block is the condition or stands behind it.
  obtain ⟨last, isLast⟩ : ∃ last, (condition :: between.filter marksBlock).getLast? = some last :=
    ⟨_, List.getLast?_eq_some_getLast (List.cons_ne_nil _ _)⟩
  have ended : directiveOf last = some .endBlock := by
    apply closed
    rw [List.filter_append, List.filter_cons_of_pos marks, List.getLast?_append, isLast]
    rfl
  rcases List.mem_cons.1 (List.mem_of_getLast? isLast) with rfl | inside
  · rcases opens with opens | opens <;> simp [opens] at ended
  · exact unended last ((List.mem_filter.1 inside).1) ended

end AutomataShell.Script
