import AutomataShell.Proofs.Session.Depth
import AutomataShell.Proofs.Session.Enclosing
import AutomataShell.Proofs.Session.Noting

/-! Two scripts in one. Joined by a semicolon they do what they do one after the other, and a failure in
the second one is counted on from the commands of the first. The one thing that tells them apart is a note
of success: a first script without commands leaves one, and as a part of the whole it does not. -/

set_option autoImplicit false

namespace AutomataShell

open Script Text

def Position.shift (count : Nat) (position : Position) : Position :=
  { position with index := position.index + count }

/-- The failure counted on from a number of commands. What failed and why stays the same. -/
def BatchFailure.shift (count : Nat) (failure : BatchFailure) : BatchFailure :=
  { failure with position := failure.position.map (Position.shift count) }

namespace BatchResult

def shift (count : Nat) (result : BatchResult) : BatchResult :=
  { result with failure := result.failure.map (BatchFailure.shift count) }

theorem shift_zero (result : BatchResult) : result.shift 0 = result := by
  obtain ⟨replies, _ | ⟨_ | position, why⟩⟩ := result <;> rfl

theorem shift_shift (first second : Nat) (result : BatchResult) :
    (result.shift first).shift second = result.shift (second + first) := by
  have sum (index : Nat) : index + first + second = index + (second + first) := by omega
  obtain ⟨replies, _ | ⟨_ | position, why⟩⟩ := result
  · rfl
  · rfl
  · simp [shift, BatchFailure.shift, Position.shift, sum]

end BatchResult

namespace Workspace

/-- Goes on after a first part, if that has succeeded and left the session open. Failures are counted on
from the number of its commands. -/
def inTurn (count : Nat) (first : Outcome Refusal BatchResult)
    (second : Workspace → Outcome Refusal BatchResult) : Outcome Refusal BatchResult :=
  match first with
  | (.error failure, left) => (.error failure, left)
  | (.ok result, left) =>
    if result.succeeded && !left.session.closed then
      match second left with
      | (.error failure, final) => (.error failure, final)
      | (.ok later, final) => (.ok ((later.shift count).after result.replies), final)
    else
      (.ok result, left)

/-- Runs one script and then, if it has succeeded and left the session open, another one. -/
def executeInTurn (first second : Text) (workspace : Workspace) : Outcome Refusal BatchResult :=
  inTurn (commandsOf first).length (workspace.executeScript first) fun left =>
    left.executeScript second

theorem inTurn_of_goesOn {count : Nat} {result : BatchResult} {left : Workspace}
    (goesOn : (result.succeeded && !left.session.closed) = true)
    (second : Workspace → Outcome Refusal BatchResult) :
    inTurn count (.ok result, left) second =
      (second left).map (Except.map fun later => (later.shift count).after result.replies) id := by
  rw [inTurn, if_pos goesOn]
  generalize second left = outcome
  obtain ⟨_ | later, final⟩ := outcome <;> rfl

theorem inTurn_of_stops {count : Nat} {result : BatchResult} {left : Workspace}
    (stops : ¬ (result.succeeded && !left.session.closed) = true)
    (second : Workspace → Outcome Refusal BatchResult) :
    inTurn count (.ok result, left) second = (.ok result, left) := by
  rw [inTurn, if_neg stops]

/-- The second part only matters where the first one has left the session open. -/
theorem inTurn_congr {count : Nat} {first : Outcome Refusal BatchResult}
    {second other : Workspace → Outcome Refusal BatchResult}
    (same : first.2.session.closed = false → second first.2 = other first.2) :
    inTurn count first second = inTurn count first other := by
  obtain ⟨_ | result, left⟩ := first
  · rfl
  · by_cases goesOn : (result.succeeded && !left.session.closed) = true
    · rw [inTurn_of_goesOn goesOn, inTurn_of_goesOn goesOn,
        same (by simpa using (Bool.and_eq_true_iff.1 goesOn).2)]
    · rw [inTurn_of_stops goesOn, inTurn_of_stops goesOn]

/-- A line before the first part counts once more for the failures of the second. -/
theorem inTurn_after (count : Nat) (reply : Reply) (first : Outcome Refusal BatchResult)
    (second : Workspace → Outcome Refusal BatchResult) :
    inTurn (count + 1) (first.map (Except.map (BatchResult.after [reply])) id) second =
      (inTurn count first fun left => (second left).map (Except.map (BatchResult.shift 1)) id).map
        (Except.map (BatchResult.after [reply])) id := by
  obtain ⟨_ | result, left⟩ := first
  · rfl
  · have answered : (Except.ok result, left).map (Except.map (BatchResult.after [reply])) id =
        ((.ok (result.after [reply]), left) : Outcome Refusal BatchResult) := rfl
    rw [answered]
    by_cases goesOn : (result.succeeded && !left.session.closed) = true
    · have goesOnToo : ((result.after [reply]).succeeded && !left.session.closed) = true := goesOn
      rw [inTurn_of_goesOn goesOn, inTurn_of_goesOn goesOnToo]
      generalize second left = outcome
      obtain ⟨_ | later, final⟩ := outcome
      · rfl
      · have shifted := later.shift_shift 1 count
        simp only [Prod.map, Except.map, id, shifted]
        rfl
    · have stopsToo : ¬ ((result.after [reply]).succeeded && !left.session.closed) = true := goesOn
      rw [inTurn_of_stops goesOn, inTurn_of_stops stopsToo]
      rfl

variable {nested : Runner} {workspace : Workspace}

/-- Lines that are counted from a later number on. -/
theorem runLines_shift (index count : Nat) (lines : List Text) (workspace : Workspace) :
    workspace.runLines nested (index + count) lines =
      (workspace.runLines nested index lines).map (Except.map (BatchResult.shift count)) id := by
  induction lines generalizing index workspace with
  | nil => rfl
  | cons line rest ih =>
    unfold runLines
    split
    · rfl
    · split
      · rfl
      · rfl
      · rename_i reply left ran
        rw [Nat.add_right_comm, ih]
        generalize left.runLines nested (index + 1) rest = outcome
        obtain ⟨_ | result, final⟩ := outcome <;> rfl

/-- Lines are run in turn, unless the first part has none and finds no note of success. -/
theorem runLines_append_eq_inTurn {before : List Text}
    (success : before = [] → workspace.session.successful = true) (index : Nat) (after : List Text) :
    workspace.runLines nested index (before ++ after) =
      inTurn before.length (workspace.runLines nested index before) fun left =>
        left.runLines nested index after := by
  induction before generalizing index workspace with
  | nil =>
    have same : workspace.runLines nested index [] = (.ok ⟨[], none⟩, workspace) :=
      congrArg (Prod.mk _) (noted_eq_self (success rfl))
    rw [same, List.nil_append]
    cases isClosed : workspace.session.closed with
    | true =>
      rw [inTurn_of_stops (by simp [isClosed]), runLines_of_closed _ _ _ isClosed]
      exact same
    | false =>
      rw [inTurn_of_goesOn (by simp [isClosed, BatchResult.succeeded])]
      simp only [List.length_nil, BatchResult.shift_zero]
      generalize workspace.runLines nested index after = outcome
      obtain ⟨_ | result, final⟩ := outcome <;> rfl
  | cons line rest ih =>
    rw [List.cons_append]
    cases isClosed : workspace.session.closed with
    | true =>
      rw [runLines_of_closed _ _ _ isClosed, runLines_of_closed _ _ _ isClosed,
        inTurn_of_stops (by simp [update, Session.note, isClosed])]
    | false =>
      rcases ran : workspace.runLine nested line with ⟨failure | why | reply, left⟩
      · simp [runLines, isClosed, ran, inTurn]
      · simp [runLines, isClosed, ran, inTurn, BatchResult.succeeded]
      · rw [runLines_cons_of_answered ran, runLines_cons_of_answered ran,
          ih fun _ => successful_of_answered ran, List.length_cons, inTurn_after]
        simp only [runLines_shift index 1]

/-- A straight script is run line by line. -/
theorem runScript_of_isStraight {script : Text} (isOpen : workspace.session.closed = false)
    (isText : script.all isBlank = false) (straight : IsStraight script) :
    workspace.runScript nested script = workspace.runLines nested 1 (commandsOf script) := by
  have untold : workspace.told script = workspace := by
    rw [told, straight.expansion_eq]
    rfl
  rw [runScript_of_text isOpen isText, commandsOf, untold, preprocess_of_plain straight.plain]

theorem commandsOf_of_isStraight {script : Text} (straight : IsStraight script) :
    commandsOf script = (logicalLines script).map (entry []) := by
  rw [commandsOf, preprocess_of_plain straight.plain]
  apply splitCommands_written
  intro command member
  obtain ⟨line, inLines, rfl⟩ := List.mem_map.1 member
  exact isClean_entry (fun _ none => by cases none) (isClean_logicalLines inLines)

theorem commandsOf_join {first second : Text} (straight : IsStraight first)
    (straightToo : IsStraight second) :
    commandsOf (first ++ ';' :: second) = commandsOf first ++ commandsOf second := by
  rw [commandsOf_of_isStraight (straight.join straightToo), commandsOf_of_isStraight straight,
    commandsOf_of_isStraight straightToo, straight.logicalLines_join straightToo, List.map_append]

/-- Both scripts and the whole come down to lines, which a common depth is enough for. -/
theorem exists_depth_executeInTurn (isNamed : workspace.disk.IsNamed)
    (isOpen : workspace.session.closed = false) {first second : Text}
    (isText : first.all isBlank = false) (isTextToo : second.all isBlank = false)
    (straight : IsStraight first) (straightToo : IsStraight second) :
    ∃ depth,
      workspace.executeScript (first ++ ';' :: second) =
          workspace.runLines (runTo depth) 1 (commandsOf first ++ commandsOf second) ∧
        workspace.executeInTurn first second =
          inTurn (commandsOf first).length (workspace.runLines (runTo depth) 1 (commandsOf first))
            fun left => left.runLines (runTo depth) 1 (commandsOf second) := by
  let whole := first ++ ';' :: second
  let left := (workspace.executeScript first).2
  let depth := workspace.importDepth whole.length +
    (workspace.importDepth first.length + left.importDepth second.length)
  have isTextWhole : whole.all isBlank = false := by simp [whole, isText]
  have ranWhole : workspace.executeScript whole = workspace.runScript (runTo depth) whole :=
    executeScript_eq_of_deep isNamed (Nat.le_add_right _ _)
  have ranFirst : workspace.executeScript first = workspace.runScript (runTo depth) first :=
    executeScript_eq_of_deep isNamed ((Nat.le_add_right _ _).trans (Nat.le_add_left _ _))
  have ranSecond : left.executeScript second = left.runScript (runTo depth) second :=
    executeScript_eq_of_deep (isNamed_executeScript isNamed first)
      ((Nat.le_add_left _ _).trans (Nat.le_add_left _ _))
  rw [runScript_of_isStraight isOpen isTextWhole (straight.join straightToo),
    commandsOf_join straight straightToo] at ranWhole
  refine ⟨depth, ranWhole, ?_⟩
  have goesOn : left.session.closed = false →
      left.executeScript second = left.runLines (runTo depth) 1 (commandsOf second) := by
    intro stillOpen
    rw [ranSecond, runScript_of_isStraight stillOpen isTextToo straightToo]
  rw [executeInTurn, inTurn_congr goesOn, ranFirst, runScript_of_isStraight isOpen isText straight]

/-- Without lines before them, lines are run from a note of success. -/
theorem inTurn_runLines_nil (index : Nat) (lines : List Text) (workspace : Workspace) :
    (inTurn 0 (workspace.runLines nested index []) fun left => left.runLines nested index lines) =
      (workspace.noted true).runLines nested index lines := by
  have ran : (workspace.noted true).runLines nested index ([] ++ lines) =
      inTurn 0 ((workspace.noted true).runLines nested index []) fun left =>
        left.runLines nested index lines :=
    runLines_append_eq_inTurn (fun _ => rfl) index lines
  exact ran.symm

/-- In an open session, two straight scripts come to the same joined as in turn: the same replies or the
same error, and a failure with the same command and cause, counted on from the commands of the first
script. The session, the files and the journal are the same after them, but for the note of the last
success where the first script has no command and the second one raises an error before any line has been
answered. -/
theorem executeScript_join (isNamed : workspace.disk.IsNamed)
    (isOpen : workspace.session.closed = false) {first second : Text}
    (isText : first.all isBlank = false) (isTextToo : second.all isBlank = false)
    (straight : IsStraight first) (straightToo : IsStraight second) :
    let whole := workspace.executeScript (first ++ ';' :: second)
    let parts := workspace.executeInTurn first second
    whole.1 = parts.1 ∧ whole.2 = parts.2.noted whole.2.session.successful ∧
      (whole = parts ↔ ¬ (commandsOf first = [] ∧ (∃ failure, whole.1 = .error failure) ∧
        whole.2.session.successful = false)) ∧
      ∀ result failure, whole.1 = .ok result → result.failure = some failure →
        ∃ position, failure.position = some position := by
  intro whole parts
  obtain ⟨depth, ranWhole, ranParts⟩ :=
    exists_depth_executeInTurn isNamed isOpen isText isTextToo straight straightToo
  have named (result : BatchResult) (failure : BatchFailure) (answered : whole.1 = .ok result)
      (failed : result.failure = some failure) : ∃ position, failure.position = some position := by
    obtain ⟨_, _, _, _, _, _, _, _, position⟩ :=
      exists_refused_line ((congrArg Prod.fst ranWhole).symm.trans answered) failed
    exact ⟨_, position⟩
  by_cases none : commandsOf first = []
  · rw [none, List.nil_append] at ranWhole
    rw [none, List.length_nil, inTurn_runLines_nil] at ranParts
    obtain ⟨sameAnswer, sameButNote, differ⟩ :=
      (runLines_heedless (runTo_isHeedless depth) 1 (commandsOf second) workspace).compared
    rw [← ranWhole, ← ranParts] at sameAnswer sameButNote differ
    exact ⟨sameAnswer, sameButNote, by simpa only [none, true_and] using differ, named⟩
  · have equal : whole = parts := by
      refine ranWhole.trans (Eq.trans ?_ ranParts.symm)
      exact runLines_append_eq_inTurn (fun empty => absurd empty none) 1 (commandsOf second)
    refine ⟨congrArg Prod.fst equal, ?_, iff_of_true equal fun ⟨empty, _⟩ => none empty, named⟩
    rw [← equal]
    exact (noted_eq_self rfl).symm

/-- The failure is the second one of the second script. -/
example : ((start ⟨[], [], []⟩).executeInTurn "create nfa a; add x" "add y; add x").1 =
    .ok ⟨[.created, .added ['x'], .added ['y']],
      some ⟨some ⟨4, "add x"⟩, .machine (.nameTaken 'x')⟩⟩ := by
  decide +kernel

/-- A session that has failed to run its only line. -/
def afterFailure : Workspace :=
  ((start ⟨[], [], []⟩).execute "stop").2

/-- A script of a semicolon takes the note of the failure back, and the home of another user is then
looked for in vain. As a part of the whole it does not. -/
theorem executeScript_join_afterFailure :
    let whole := afterFailure.executeScript ([';'] ++ ';' :: "import ~other")
    let parts := afterFailure.executeInTurn [';'] "import ~other"
    whole.1 = parts.1 ∧ whole.2.session.successful = false ∧
      parts.2.session.successful = true := by
  intro whole parts
  have sameDisk : afterFailure.disk = ⟨[], [], []⟩ := by decide +kernel
  have isNamed : afterFailure.disk.IsNamed := by
    rw [sameDisk]
    constructor <;>
    · intro _ member
      cases member
  have straight : IsStraight [';'] := ⟨by decide +kernel, by decide +kernel⟩
  have straightToo : IsStraight "import ~other" := ⟨by decide +kernel, by decide +kernel⟩
  have noCommand : commandsOf [';'] = [] := by decide +kernel
  have raised : whole.1 = .error (.broke .unknownUser) := by decide +kernel
  have unnoted : whole.2.session.successful = false := by decide +kernel
  obtain ⟨same, sameButNote, differ, _⟩ := executeScript_join isNamed (by decide +kernel)
    (by decide +kernel) (by decide +kernel) straight straightToo
  refine ⟨same, unnoted, ?_⟩
  by_contra notedToo
  -- With the same note, all would be the same.
  have equal : whole = parts := by
    refine Prod.ext same (sameButNote.trans ?_)
    rw [unnoted, noted_eq_self (Bool.eq_false_iff.2 notedToo)]
  exact differ.1 equal ⟨noCommand, ⟨_, raised⟩, unnoted⟩

end Workspace

end AutomataShell
