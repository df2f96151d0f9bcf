import AutomataShell.Proofs.Session.Grounding

/-! How deep imports nest. The imports in progress are of different files, and those that the run has
written itself import nothing, so the files that were there before the run bound the nesting. -/

set_option autoImplicit false

namespace AutomataShell

open Script Text

/-- How many files of a disk are not being imported. -/
def Disk.unimported (disk : Disk) (importing : List Place) : Nat :=
  disk.entries.countP fun entry => isFile entry && !importing.contains entry.1

theorem Disk.unimported_nil (disk : Disk) : disk.unimported [] = disk.fileCount := by
  simp [unimported, fileCount]

theorem Disk.unimported_cons_lt {disk : Disk} {place : Place} {importing : List Place}
    {content : FileContent} (held : disk.entryAt place = some (.file content))
    (idle : place ∉ importing) :
    disk.unimported (place :: importing) < disk.unimported importing := by
  unfold entryAt at held
  split at held
  · cases held
  · obtain ⟨before, after, split, _⟩ := List.lookup_eq_some_iff.1 held
    -- The entry of the place counts before the import and not after it, and no other counts anew.
    have fewer (entries : List (Place × Entry)) :
        entries.countP (fun entry => isFile entry && !(place :: importing).contains entry.1) ≤
          entries.countP (fun entry => isFile entry && !importing.contains entry.1) := by
      apply List.countP_mono_left
      simp only [Bool.and_eq_true, Bool.not_eq_true', List.contains_cons, Bool.or_eq_false_iff]
      exact fun entry _ counted => ⟨counted.1, counted.2.2⟩
    have counts : (isFile (place, .file content) && !importing.contains place) = true := by
      simpa [isFile] using idle
    have countsNoMore :
        (isFile (place, .file content) && !(place :: importing).contains place) = false := by
      simp
    unfold unimported
    rw [split, List.countP_append, List.countP_append, List.countP_cons, List.countP_cons]
    simp only [counts, countsNoMore, if_true, Bool.false_eq_true, if_false]
    have fewerBefore := fewer before
    have fewerAfter := fewer after
    omega

namespace Workspace

section Settled

variable {Reason α : Type}

/-- The outcomes are the same, and not because imports went too deep. -/
structure IsSettled (first second : Outcome Reason α) : Prop where
  same : first = second
  shallow : first.1 ≠ .error (.broke .importsTooDeep)

variable {nested other : Runner} {workspace : Workspace}

theorem runLine_isSettled {line : Text}
    (imports : ∀ {path place script}, workspace.Opens line path place script →
      IsSettled (nested script (workspace.begun line place))
        (other script (workspace.begun line place))) :
    IsSettled (workspace.runLine nested line) (workspace.runLine other line) := by
  rcases runLine_cases line workspace with ⟨path, place, script, opens⟩ | unaided
  · rw [runLine_of_opens opens, runLine_of_opens opens]
    exact ⟨congrArg _ (imports opens).same, shallow_concludeImport _ _ (imports opens).shallow⟩
  · exact ⟨unaided.alike nested other, unaided.shallow nested⟩

theorem runLines_cons_isSettled {line : Text} {rest : List Text} {index : Nat}
    (settled : IsSettled (workspace.runLine nested line) (workspace.runLine other line))
    (settledRest :
      let left := (workspace.runLine nested line).2
      IsSettled (left.runLines nested (index + 1) rest) (left.runLines other (index + 1) rest)) :
    IsSettled (workspace.runLines nested index (line :: rest))
      (workspace.runLines other index (line :: rest)) := by
  obtain ⟨same, shallow⟩ := settled
  unfold runLines
  rw [← same]
  split
  · exact ⟨rfl, by simp⟩
  · split
    · rename_i failure left ran
      rw [ran] at shallow
      refine ⟨rfl, fun tooDeep => shallow ?_⟩
      cases tooDeep
      rfl
    · exact ⟨rfl, by simp⟩
    · rename_i reply left ran
      rw [ran] at settledRest
      obtain ⟨sameRest, shallowRest⟩ := settledRest
      rw [← sameRest]
      refine ⟨rfl, ?_⟩
      split
      · rename_i failure final ended
        rw [ended] at shallowRest
        intro tooDeep
        apply shallowRest
        cases tooDeep
        rfl
      · simp

/-- Lines are settled where each of them is, in every workspace that they can get to. -/
theorem runLines_isSettled {P : Workspace → Prop} {lines : List Text}
    (kept : ∀ line ∈ lines, ∀ workspace, P workspace → P (workspace.runLine nested line).2)
    (settled : ∀ line ∈ lines, ∀ workspace, P workspace →
      IsSettled (workspace.runLine nested line) (workspace.runLine other line))
    (index : Nat) (holds : P workspace) :
    IsSettled (workspace.runLines nested index lines) (workspace.runLines other index lines) := by
  induction lines generalizing index workspace with
  | nil => exact ⟨rfl, by simp [runLines]⟩
  | cons line rest ih =>
    apply runLines_cons_isSettled (settled line List.mem_cons_self workspace holds)
    exact ih (fun next member => kept next (List.mem_cons_of_mem line member))
      (fun next member => settled next (List.mem_cons_of_mem line member)) (index + 1)
      (kept line List.mem_cons_self workspace holds)

theorem runScript_isSettled {script : Text}
    (settled : IsSettled ((workspace.told script).runLines nested 1 (commandsOf script))
      ((workspace.told script).runLines other 1 (commandsOf script))) :
    IsSettled (workspace.runScript nested script) (workspace.runScript other script) := by
  cases isOpen : workspace.session.closed with
  | true =>
    rw [runScript_of_closed _ _ isOpen, runScript_of_closed _ _ isOpen]
    exact ⟨rfl, by simp⟩
  | false =>
    cases blank : script.all isBlank with
    | true =>
      rw [runScript_of_blank isOpen blank, runScript_of_blank isOpen blank]
      exact ⟨rfl, by simp [refuseScript]⟩
    | false =>
      rw [runScript_of_text isOpen blank, runScript_of_text isOpen blank]
      unfold commandsOf at settled
      split
      · exact ⟨rfl, by simp [refuseScript]⟩
      · rename_i expanded same
        rwa [same] at settled

end Settled

variable {origin : Disk} {workspace now : Workspace} {lines : List Text}

/-- Lines that import nothing need no depth for imports. Other lines need more than there are files
left to import. -/
def Suffices (origin : Disk) (depth : Nat) (lines : List Text) (importing : List Place) : Prop :=
  ImportsNothing lines ∨ origin.unimported importing < depth

theorem Opens.not_importsNothing {line path script : Text} {place : Place}
    (opens : workspace.Opens line path place script) (member : line ∈ lines) :
    ¬ ImportsNothing lines :=
  fun nothing => nothing line member opens.isImport

/-- A depth that suffices for a line that imports is more than the depth that suffices for the
script. -/
theorem Suffices.opens {depth : Nat} {line path script : Text} {place : Place}
    (enough : Suffices origin depth lines workspace.session.importing) (member : line ∈ lines)
    (opens : workspace.Opens line path place script) (grounded : workspace.Grounded origin)
    (isNamed : origin.IsNamed) :
    ∃ below, depth = below + 1 ∧
      Suffices origin below (commandsOf script) (place :: workspace.session.importing) := by
  rcases enough with nothing | left
  · exact absurd nothing (opens.not_importsNothing member)
  · obtain ⟨below, rfl⟩ : ∃ below, depth = below + 1 := ⟨depth - 1, by omega⟩
    refine ⟨below, rfl, ?_⟩
    rcases grounded.opens isNamed opens with ⟨content, held⟩ | nothing
    · have fewer := Disk.unimported_cons_lt held opens.idle
      exact Or.inr (by omega)
    · exact Or.inl nothing

/-- Any two depths that suffice for some lines give the same outcome, if they do for the scripts that
the lines import. -/
theorem Grounded.runLines_isSettled (grounded : workspace.Grounded origin)
    (isNamed : origin.IsNamed) {depth other : Nat} {lines : List Text}
    (recordable : ∀ line ∈ lines, IsRecordable (trim line))
    (enough : Suffices origin depth lines workspace.session.importing)
    (enoughToo : Suffices origin other lines workspace.session.importing)
    (settledBelow : ∀ {below belowToo : Nat} {script : Text} {now : Workspace}, below < depth →
      now.Grounded origin → Suffices origin below (commandsOf script) now.session.importing →
        Suffices origin belowToo (commandsOf script) now.session.importing →
          IsSettled (now.runScript (runTo below) script) (now.runScript (runTo belowToo) script))
    (index : Nat) :
    IsSettled (workspace.runLines (runTo depth) index lines)
      (workspace.runLines (runTo other) index lines) := by
  -- Between the lines, the imports in progress are those at their beginning.
  have kept : ∀ line ∈ lines, ∀ reached : Workspace,
      reached.Grounded origin ∧ reached.session.importing = workspace.session.importing →
        (reached.runLine (runTo depth) line).2.Grounded origin ∧
          (reached.runLine (runTo depth) line).2.session.importing =
            workspace.session.importing := by
    rintro line member reached ⟨groundedThere, same⟩
    exact ⟨groundedThere.runLine (recordable line member) depth,
      (runLine_importing (runTo_endsImports depth) line reached).trans same⟩
  refine Workspace.runLines_isSettled kept ?_ index ⟨grounded, rfl⟩
  rintro line member reached ⟨groundedThere, same⟩
  rw [← same] at enough enoughToo
  apply runLine_isSettled
  intro path place imported opens
  obtain ⟨below, rfl, enoughBelow⟩ := enough.opens member opens groundedThere isNamed
  obtain ⟨belowToo, rfl, enoughBelowToo⟩ := enoughToo.opens member opens groundedThere isNamed
  exact settledBelow (Nat.lt_succ_self below) (groundedThere.begun line place) enoughBelow
    enoughBelowToo

/-- Any two depths that suffice for a script give the same outcome. -/
theorem runScript_isSettled_of_suffices (isNamed : origin.IsNamed) {depth other : Nat}
    {script : Text} (grounded : workspace.Grounded origin)
    (enough : Suffices origin depth (commandsOf script) workspace.session.importing)
    (enoughToo : Suffices origin other (commandsOf script) workspace.session.importing) :
    IsSettled (workspace.runScript (runTo depth) script)
      (workspace.runScript (runTo other) script) := by
  induction depth using Nat.strong_induction_on generalizing other script workspace with
  | _ depth ih =>
    apply runScript_isSettled
    apply (grounded.told script).runLines_isSettled isNamed
      (fun _ => isRecordable_of_mem_commandsOf) enough enoughToo
    intro below belowToo imported now lower groundedThere enoughBelow enoughBelowToo
    exact ih below lower groundedThere enoughBelow enoughBelowToo

/-- The moments of a run of lines, with a depth for their imports: before each line that is reached,
after it, and while the script of a file runs that it imports. -/
inductive Moment : Nat → List Text → Workspace → Workspace → Prop where
  | before (depth : Nat) (lines : List Text) (workspace : Workspace) :
      Moment depth lines workspace workspace
  | after (depth : Nat) (line : Text) (rest : List Text) (workspace : Workspace) :
      Moment depth (line :: rest) workspace (workspace.runLine (runTo depth) line).2
  | later {depth : Nat} {line : Text} {rest : List Text} {workspace left now : Workspace}
      {reply : Reply} (ran : workspace.runLine (runTo depth) line = (.ok (.ok reply), left))
      (moment : Moment depth rest left now) : Moment depth (line :: rest) workspace now
  | within {depth : Nat} {line path script : Text} {place : Place} {rest : List Text}
      {workspace now : Workspace} (opens : workspace.Opens line path place script)
      (moment : Moment depth (commandsOf script) ((workspace.begun line place).told script) now) :
      Moment (depth + 1) (line :: rest) workspace now

/-- What holds where lines are about to run. Of the files in progress only the latest may be one that
the run has written, and then no line imports. -/
structure Underway (origin : Disk) (lines : List Text) (workspace : Workspace) : Prop where
  grounded : workspace.Grounded origin
  recordable : ∀ line ∈ lines, IsRecordable (trim line)
  distinct : workspace.session.importing.Nodup
  counted :
    workspace.session.importing.length + origin.unimported workspace.session.importing ≤
        origin.fileCount ∨
      ImportsNothing lines ∧ workspace.session.importing.length ≤ origin.fileCount + 1

theorem Underway.after {depth : Nat} {line : Text} {rest : List Text}
    (underway : Underway origin (line :: rest) workspace) :
    Underway origin rest (workspace.runLine (runTo depth) line).2 where
  grounded := underway.grounded.runLine (underway.recordable line List.mem_cons_self) depth
  recordable next member := underway.recordable next (List.mem_cons_of_mem line member)
  distinct := by
    rw [runLine_importing (runTo_endsImports depth)]
    exact underway.distinct
  counted := by
    rw [runLine_importing (runTo_endsImports depth)]
    refine underway.counted.imp_right fun ⟨nothing, few⟩ => ⟨fun next member => ?_, few⟩
    exact nothing next (List.mem_cons_of_mem line member)

theorem Underway.within {line path script : Text} {place : Place} {rest : List Text}
    (underway : Underway origin (line :: rest) workspace) (isNamed : origin.IsNamed)
    (opens : workspace.Opens line path place script) :
    Underway origin (commandsOf script) ((workspace.begun line place).told script) where
  grounded := (underway.grounded.begun line place).told script
  recordable _ := isRecordable_of_mem_commandsOf
  distinct := List.nodup_cons.2 ⟨opens.idle, underway.distinct⟩
  counted := by
    have importing : ((workspace.begun line place).told script).session.importing =
        place :: workspace.session.importing := rfl
    rw [importing, List.length_cons]
    rcases underway.counted with few | ⟨nothing, _⟩
    · rcases underway.grounded.opens isNamed opens with ⟨content, held⟩ | nothing
      · have fewer := Disk.unimported_cons_lt held opens.idle
        exact Or.inl (by omega)
      · exact Or.inr ⟨nothing, by omega⟩
    · exact absurd nothing (opens.not_importsNothing List.mem_cons_self)

theorem Moment.underway {depth : Nat} (moment : Moment depth lines workspace now)
    (isNamed : origin.IsNamed) (underway : Underway origin lines workspace) :
    ∃ left, Underway origin left now := by
  induction moment with
  | before depth lines workspace => exact ⟨lines, underway⟩
  | after depth line rest workspace => exact ⟨rest, underway.after⟩
  | @later depth line rest workspace left now reply ran moment ih =>
    have reached : Underway origin rest (workspace.runLine (runTo depth) line).2 := underway.after
    rw [ran] at reached
    exact ih reached
  | within opens moment ih => exact ih (underway.within isNamed opens)

/-- A moment of a run that began with some files: the imports in progress are of different files, not
many more than there were, and nothing that the run has written or would export now imports. -/
structure Orderly (origin : Disk) (now : Workspace) : Prop where
  distinct : now.session.importing.Nodup
  bounded : now.session.importing.length ≤ origin.fileCount + 1
  files : ∀ place, now.disk.entryAt place = origin.entryAt place ∨
    ∃ text, now.disk.entryAt place = some (.file (.readable text)) ∧
      ImportsNothing (commandsOf (unifyBreaks text))
  exports : ∀ path count left, now.exportFile path = (.ok count, left) →
    ∃ place text, left.disk = now.disk.put place (.file (.readable text)) ∧
      ImportsNothing (commandsOf (unifyBreaks text))

theorem Underway.orderly (underway : Underway origin lines now) : Orderly origin now where
  distinct := underway.distinct
  bounded := by
    rcases underway.counted with few | ⟨_, few⟩
    · omega
    · exact few
  files := underway.grounded.files
  exports path count left exported := by
    have harmless := importsNothing_exportable underway.grounded.recordable
    unfold exportFile at exported
    split at exported
    · cases exported
    · simp only at exported
      split at exported
      · cases exported
      · rename_i files wrote
        cases exported
        obtain ⟨_, place, _, _, same⟩ := Disk.eq_put_of_writeText wrote
        exact ⟨place, _, same, harmless⟩

/-- Running a script in a fresh session ends, whatever files import each other: a depth of imports just
above the number of files is enough, and more depth changes nothing. At each moment the imports in
progress are of different files, and no file that the run has written imports anything. -/
theorem executeScript_ends {disk : Disk} (isNamed : disk.IsNamed) (script : Text) :
    (∀ depth, disk.fileCount + 2 ≤ depth →
        runTo depth script (start disk) = (start disk).executeScript script) ∧
      ((start disk).executeScript script).1 ≠ .error (.broke .importsTooDeep) ∧
      ∀ depth now, Moment depth (commandsOf script) ((start disk).told script) now →
        Orderly disk now := by
  have unimported : disk.unimported (start disk).session.importing = disk.fileCount :=
    disk.unimported_nil
  have enough : Suffices disk ((start disk).importDepth script.length) (commandsOf script)
      (start disk).session.importing := by
    refine Or.inr ?_
    rw [unimported, importDepth]
    exact Nat.lt_succ_of_le (Nat.le_add_right _ _)
  refine ⟨fun depth deep => ?_, ?_, fun depth now moment => ?_⟩
  · obtain ⟨below, rfl⟩ : ∃ below, depth = below + 1 := ⟨depth - 1, by omega⟩
    have enoughBelow : Suffices disk below (commandsOf script) (start disk).session.importing :=
      Or.inr (by omega)
    exact (runScript_isSettled_of_suffices isNamed (grounded_start disk) enoughBelow enough).same
  · exact (runScript_isSettled_of_suffices isNamed (grounded_start disk) enough enough).shallow
  · have counted : ((start disk).told script).session.importing.length +
        disk.unimported ((start disk).told script).session.importing ≤ disk.fileCount := by
      rw [told_session, unimported]
      exact Nat.le_of_eq (Nat.zero_add _)
    have underway : Underway disk (commandsOf script) ((start disk).told script) :=
      ⟨(grounded_start disk).told script, fun _ => isRecordable_of_mem_commandsOf, List.nodup_nil,
        Or.inl counted⟩
    obtain ⟨left, reached⟩ := moment.underway isNamed underway
    exact reached.orderly

/-- Two files that import each other, one of them by way of the home of its user. -/
def circle : Disk :=
  ⟨[(["w"], .directory), (["w", "a"], .file (.readable "create nfa a; export c; import ~u/b")),
    (["w", "b"], .file (.readable "import c; import a"))], ["w"], [("u", ["w"])]⟩

/-- The run is refused where the circle closes, after a file of its own has been imported. -/
theorem executeScript_ends_circle :
    runTo 4 "import a" (start circle) = (start circle).executeScript "import a" ∧
      ∀ depth now, Moment depth (commandsOf "import a") ((start circle).told "import a") now →
        now.session.importing.length ≤ 3 := by
  have isNamed : circle.IsNamed := by
    have isName : IsName "w" := ⟨by decide, by decide, by decide, by decide, by decide⟩
    constructor
    · intro entry member name inHome
      rw [List.mem_singleton.1 member] at inHome
      exact List.mem_singleton.1 inHome ▸ isName
    · intro name member
      exact List.mem_singleton.1 member ▸ isName
  obtain ⟨enough, _, orderly⟩ := executeScript_ends isNamed "import a"
  exact ⟨enough 4 (by decide), fun depth now moment => (orderly depth now moment).bounded⟩

end Workspace

end AutomataShell
