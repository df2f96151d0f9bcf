import AutomataShell.Proofs.Session.Closing
import AutomataShell.Proofs.Session.Enclosing

/-! Failures that pass through imports. From a line that fails, a chain leads through the scripts that
were imported and the command that failed in each, down to a command that is refused itself, or to a script
that runs no command. Its length is that of the wording, and its end decides how grave the failure is. -/

set_option autoImplicit false

namespace AutomataShell

open Script Text

namespace Workspace

section Severity

variable {nested : Runner} {workspace : Workspace} {why : Refusal}

/-- Where no script is run, only a circle of imports is fatal. -/
theorem importFile_fatal {path : Text} (unopened : ¬ workspace.OpensScript path)
    (refused : (workspace.importFile nested path).1 = .error (.refused why))
    (fatal : why.severity = .fatal) : why = .importCycle path := by
  unfold importFile at refused
  split at refused
  · cases refused
  · rename_i place found
    split at refused
    · cases refused
      rfl
    · rename_i idle
      split at refused
      · rename_i failure _
        cases failure <;> cases refused
        cases fatal
      · rename_i script stored
        exact absurd ⟨place, script, found, by simpa using idle, stored⟩ unopened

theorem perform_fatal {command : Command}
    (unopened : ∀ path, command = .importFile path → ¬ workspace.OpensScript path)
    (refused : (workspace.perform nested command).1 = .error (.refused why))
    (fatal : why.severity = .fatal) : ∃ path, why = .importCycle path := by
  cases command with
  | create | add | connect | accept | execute | displayAll | display | help | exportFile | exit =>
    exact absurd fatal (perform_severity (by simp) refused)
  | importFile path =>
    simp only [perform] at refused
    split at refused
    · rename_i ran
      cases refused
      exact ⟨path, importFile_fatal (unopened path rfl) (congrArg Prod.fst ran) fatal⟩
    · cases refused

theorem dispatch_fatal {line : Text} (unstarted : ¬ workspace.StartsImport line)
    (refused : (workspace.dispatch nested (trim line)).1 = .error (.refused why))
    (fatal : why.severity = .fatal) : ∃ path, why = .importCycle path := by
  unfold dispatch at refused
  simp only at refused
  split at refused
  · cases refused
    cases fatal
  · rename_i verb known
    split at refused
    · cases refused
      cases fatal
    · split at refused
      · cases refused
        cases fatal
      · rename_i command read
        refine perform_fatal ?_ refused fatal
        rintro path rfl opens
        obtain ⟨rfl, named⟩ := Command.read_eq_importFile_iff.1 read
        exact unstarted ⟨known, path, named, opens⟩

theorem runLine_fatal {line : Text} (unstarted : ¬ workspace.StartsImport line)
    (refused : (workspace.runLine nested line).1 = .ok (.error why))
    (fatal : why.severity = .fatal) : ∃ path, why = .importCycle path := by
  unfold runLine at refused
  split at refused
  · cases refused
  · split at refused
    · cases refused
    · rename_i ran
      cases refused
      have unstartedThere : ¬ (workspace.log (.dispatched (trim line))).StartsImport line := unstarted
      exact dispatch_fatal unstartedThere (congrArg Prod.fst ran) fatal
    · cases refused

end Severity

end Workspace

/-- The import of a file whose script has failed, with the command that has failed in it, if one has. -/
structure Layer where
  path : Text
  position : Option Position
  deriving DecidableEq, Repr

namespace Layer

/-- The refusal of the import, for what its script has failed for. -/
def wrap (layer : Layer) (why : Refusal) : Refusal :=
  .importFailed layer.path layer.position why

/-- How the layer is worded around what it holds. -/
def shown (severity : Severity) (layer : Layer) (held : Text) : Text :=
  severity.tag ++ "Import of " ++ layer.path ++ " failed:\n" ++ held ++
    (layer.position.map Position.shown).getD []

variable (layers : List Layer) (innermost : Refusal)

theorem severity_wrap (layer : Layer) (why : Refusal) :
    (layer.wrap why).severity = if why.severity = .fatal then .fatal else .execution := by
  rw [wrap, Refusal.severity]

theorem fatal_foldr_wrap_iff :
    (layers.foldr wrap innermost).severity = .fatal ↔ innermost.severity = .fatal := by
  induction layers with
  | nil => rfl
  | cons layer rest ih =>
    rw [List.foldr_cons, severity_wrap, ← ih]
    split
    · rename_i fatal
      exact iff_of_true rfl fatal
    · rename_i mild
      exact iff_of_false (by simp) mild

theorem severity_foldr_wrap (some : layers ≠ []) :
    (layers.foldr wrap innermost).severity =
      if innermost.severity = .fatal then .fatal else .execution := by
  cases layers with
  | nil => exact absurd rfl some
  | cons layer rest => simp only [List.foldr_cons, severity_wrap, fatal_foldr_wrap_iff]

/-- The layers stand around the message of what they hold, each tagged as the whole is. -/
theorem message_foldr_wrap :
    (layers.foldr wrap innermost).message =
      layers.foldr (shown (layers.foldr wrap innermost).severity) innermost.message := by
  induction layers with
  | nil => rfl
  | cons layer rest ih =>
    have outer (held : Refusal) : (layer.wrap held).message =
        layer.shown (layer.wrap held).severity held.message := by
      rw [wrap, Refusal.message]
      simp [shown, List.append_assoc]
    rw [List.foldr_cons, outer, ih, List.foldr_cons]
    rcases rest with _ | ⟨next, rest⟩
    · rfl
    · -- Both severities are that of what the innermost refusal makes of any import.
      rw [severity_wrap, severity_foldr_wrap (next :: rest) innermost (List.cons_ne_nil _ _)]
      split <;> simp

end Layer

theorem Refusal.tag_prefix_message (why : Refusal) : why.severity.tag <+: why.message := by
  unfold message
  exact List.prefix_append _ _

/-- Why a script is refused before it comes to a command. -/
def scriptRefusal (script : Text) : Option Refusal :=
  if script.all isBlank then
    some .noText
  else
    match preprocess script with
    | .error why => some (.script why)
    | .ok _ => none

/-- Where the chain of a failure ends. -/
inductive Tip where
  | command (line : Text) (found : Workspace)
  | script (text : Text)

/-- Whether the chain ends with the import of a file that is being imported. -/
def Tip.IsCircle : Tip → Prop
  | .command line found => ∃ path, (Call.line line).importedPath = some path ∧
      ∃ place ∈ found.session.importing, Workspace.importPlace path found.disk = .ok place
  | .script _ => False

namespace Workspace

/-- The chain from a line that fails, with the imports on it from the outside in, its end, and what is
refused there. -/
inductive Descends : Nat → Text → Workspace → List Layer → Tip → Refusal → Prop where
  | command {depth : Nat} {line : Text} {workspace : Workspace} {why : Refusal}
      (unstarted : ¬ workspace.StartsImport line)
      (refused : (workspace.runLine (runTo depth) line).1 = .ok (.error why)) :
      Descends depth line workspace [] (.command line workspace) why
  | script {depth : Nat} {line path script : Text} {place : Place} {workspace : Workspace}
      {why : Refusal} (opens : workspace.Opens line path place script)
      (refused : scriptRefusal script = some why) :
      Descends (depth + 1) line workspace [⟨path, none⟩] (.script script) why
  | within {depth : Nat} {line path script inner : Text} {place : Place} {before after : List Text}
      {workspace reached : Workspace} {layers : List Layer} {tip : Tip} {why : Refusal}
      (opens : workspace.Opens line path place script) (isText : script.all isBlank = false)
      (commands : commandsOf script = before ++ inner :: after)
      (passes : Passes (runTo depth) before ((workspace.begun line place).told script) reached)
      (descends : Descends depth inner reached layers tip why) :
      Descends (depth + 1) line workspace (⟨path, some ⟨before.length + 1, inner⟩⟩ :: layers) tip why

variable {depth : Nat} {line : Text} {workspace : Workspace} {layers : List Layer} {tip : Tip}
  {why : Refusal}

theorem runScript_of_scriptRefusal {nested : Runner} {script : Text}
    (isOpen : workspace.session.closed = false) (refused : scriptRefusal script = some why) :
    (workspace.runScript nested script).1 = .ok (.failed why) := by
  unfold scriptRefusal at refused
  cases isText : script.all isBlank with
  | true =>
    rw [if_pos isText] at refused
    cases refused
    rw [runScript_of_blank isOpen isText]
    rfl
  | false =>
    rw [if_neg (by simp [isText])] at refused
    rw [runScript_of_text isOpen isText]
    cases expanded : preprocess script with
    | error fault =>
      simp only [expanded] at refused ⊢
      cases refused
      rfl
    | ok text =>
      simp only [expanded] at refused
      cases refused

theorem runScript_of_unrefused {nested : Runner} {script : Text}
    (isOpen : workspace.session.closed = false) (unrefused : scriptRefusal script = none) :
    script.all isBlank = false ∧ workspace.runScript nested script =
      (workspace.told script).runLines nested 1 (commandsOf script) := by
  unfold scriptRefusal at unrefused
  cases isText : script.all isBlank with
  | true =>
    rw [if_pos isText] at unrefused
    cases unrefused
  | false =>
    rw [if_neg (by simp [isText])] at unrefused
    refine ⟨rfl, ?_⟩
    rw [runScript_of_text isOpen isText, commandsOf]
    cases expanded : preprocess script with
    | error fault =>
      simp only [expanded] at unrefused
      cases unrefused
    | ok text => rfl

/-- What a line is refused for, if the script that it imports fails. -/
theorem runLine_of_failed {nested : Runner} {path script : Text} {place : Place}
    {result : BatchResult} {failure : BatchFailure}
    (opens : workspace.Opens line path place script)
    (ran : (nested script (workspace.begun line place)).1 = .ok result)
    (failed : result.failure = some failure) :
    (workspace.runLine nested line).1 =
      .ok (.error (.importFailed path failure.position failure.why)) := by
  rw [runLine_of_opens opens]
  generalize nested script (workspace.begun line place) = outcome at ran
  obtain ⟨answer, left⟩ := outcome
  obtain ⟨replies, failing⟩ := result
  cases ran
  cases failed
  rfl

theorem runLines_of_refused {nested : Runner} {line : Text}
    (refused : (workspace.runLine nested line).1 = .ok (.error why)) (index : Nat)
    (after : List Text) :
    workspace.runLines nested index (line :: after) =
      (.ok ⟨[], some ⟨some ⟨index, line⟩, why⟩⟩, (workspace.runLine nested line).2) := by
  rw [runLines, if_neg (by simp [isOpen_of_answered refused])]
  generalize workspace.runLine nested line = outcome at refused
  obtain ⟨answer, left⟩ := outcome
  cases refused
  rfl

/-- The line fails for what the chain leads to, wrapped into the imports on the way. -/
theorem Descends.refused (descends : Descends depth line workspace layers tip why) :
    (workspace.runLine (runTo depth) line).1 = .ok (.error (layers.foldr Layer.wrap why)) := by
  induction descends with
  | command _ refused => exact refused
  | script opens refused =>
    exact runLine_of_failed opens (runScript_of_scriptRefusal opens.isOpen refused) rfl
  | @within depth line path script inner place before after workspace reached layers tip why opens
      isText commands passes _ ih =>
    obtain ⟨replies, ran⟩ := runLines_append passes 1 (runLines_of_refused ih _ after)
    have begunOpen : (workspace.begun line place).session.closed = false := opens.isOpen
    have ranScript : (workspace.begun line place).runScript (runTo depth) script =
        ((workspace.begun line place).told script).runLines (runTo depth) 1 (commandsOf script) :=
      runScript_of_commands begunOpen isText (by simp [commands])
    rw [commands, ran, Nat.add_comm 1] at ranScript
    exact runLine_of_failed opens (congrArg Prod.fst ranScript) rfl

/-- Where an import is refused, its script has failed. -/
theorem exists_failure_of_refused {nested : Runner} {path script : Text} {place : Place}
    (opens : workspace.Opens line path place script)
    (unraised : ∀ why, (nested script (workspace.begun line place)).1 ≠ .error (.refused why))
    (refused : (workspace.runLine nested line).1 = .ok (.error why)) :
    ∃ result failure, (nested script (workspace.begun line place)).1 = .ok result ∧
      result.failure = some failure := by
  rw [runLine_of_opens opens] at refused
  generalize nested script (workspace.begun line place) = outcome at unraised refused
  match outcome with
  | (.error (.broke _), left) => cases refused
  | (.error (.refused why), left) => exact absurd rfl (unraised why)
  | (.ok ⟨replies, some failure⟩, left) => exact ⟨⟨replies, some failure⟩, failure, rfl, rfl⟩
  | (.ok ⟨_, none⟩, left) => cases refused

/-- A chain leads from every line that fails. -/
theorem exists_descends (refused : (workspace.runLine (runTo depth) line).1 = .ok (.error why)) :
    ∃ layers tip innermost, Descends depth line workspace layers tip innermost := by
  induction depth generalizing line workspace why with
  | zero =>
    -- A runner without depth raises an error, so no import that it was to run is refused.
    refine ⟨[], _, why, .command (fun starts => ?_) refused⟩
    obtain ⟨path, place, script, opens⟩ := starts.exists_opens (isOpen_of_answered refused)
    rw [runLine_of_opens opens] at refused
    cases refused
  | succ depth ih =>
    by_cases starts : workspace.StartsImport line
    · obtain ⟨path, place, script, opens⟩ := starts.exists_opens (isOpen_of_answered refused)
      cases refusal : scriptRefusal script with
      | some innermost => exact ⟨_, _, innermost, .script opens refusal⟩
      | none =>
        have begunOpen : (workspace.begun line place).session.closed = false := opens.isOpen
        obtain ⟨isText, ran⟩ : script.all isBlank = false ∧
            (workspace.begun line place).runScript (runTo depth) script =
              ((workspace.begun line place).told script).runLines (runTo depth) 1
                (commandsOf script) :=
          runScript_of_unrefused begunOpen refusal
        have unraised (other : Refusal) :
            (runTo (depth + 1) script (workspace.begun line place)).1 ≠ .error (.refused other) := by
          rw [runTo, ran]
          exact runLines_ne_refused
        -- The chain goes on from the line at which the script has failed, one level below.
        obtain ⟨result, failure, answered, failed⟩ := exists_failure_of_refused opens unraised refused
        rw [runTo, ran] at answered
        obtain ⟨before, inner, after, reached, commands, passes, _, refusedInner, _⟩ :=
          exists_refused_line answered failed
        obtain ⟨layers, tip, innermost, descends⟩ := ih refusedInner
        exact ⟨_, tip, innermost, .within opens isText commands passes descends⟩
    · exact ⟨[], _, why, .command starts refused⟩

theorem severity_of_scriptRefusal {script : Text} (refused : scriptRefusal script = some why) :
    why.severity = .wording := by
  unfold scriptRefusal at refused
  split at refused
  · cases refused
    rfl
  · split at refused
    · cases refused
      rfl
    · cases refused

/-- What a chain ends with is fatal if it closes a circle. -/
theorem Descends.fatal_iff (descends : Descends depth line workspace layers tip why) :
    why.severity = .fatal ↔ tip.IsCircle := by
  induction descends with
  | @command depth line workspace why unstarted refused =>
    have isOpen := isOpen_of_answered refused
    have circle (path : Text) :
        (workspace.runLine (runTo depth) line).1 = .ok (.error (.importCycle path)) ↔
          workspace.session.closed = false ∧ (Call.line line).importedPath = some path ∧
            ∃ place ∈ workspace.session.importing, importPlace path workspace.disk = .ok place :=
      runLine_importCycle_iff (runTo_raisesClosed depth)
    constructor
    · intro fatal
      obtain ⟨path, rfl⟩ := runLine_fatal unstarted refused fatal
      exact ⟨path, ((circle path).1 refused).2⟩
    · rintro ⟨path, imports⟩
      have same := refused.symm.trans ((circle path).2 ⟨isOpen, imports⟩)
      cases same
      rfl
  | script _ refused =>
    rw [severity_of_scriptRefusal refused]
    simp [Tip.IsCircle]
  | within _ _ _ _ _ ih => exact ih

/-- From each line that fails a chain leads through the imports whose scripts were run, each for the
command that failed in the one before. The failure is fatal just when the chain ends with the import of
a file that is being imported. Any other import whose script was run is a failed execution, whatever went
wrong there. The message begins with the tag of its kind, and has a layer for each of the imports, from
the outside in, around the message of what was refused at the end. -/
theorem execute_refused_through (workspace : Workspace) (line : Text) :
    let depth := workspace.importDepth 0
    (∀ why, (workspace.execute line).1 = .ok (.error why) →
        ∃ layers tip innermost, Descends depth line workspace layers tip innermost) ∧
      ∀ layers tip innermost, Descends depth line workspace layers tip innermost →
        ∃ why, (workspace.execute line).1 = .ok (.error why) ∧
          (why.severity = .fatal ↔ tip.IsCircle) ∧
          (layers ≠ [] → ¬ tip.IsCircle → why.severity = .execution) ∧
          why.severity.tag <+: why.message ∧
          why.message = layers.foldr (Layer.shown why.severity) innermost.message := by
  intro depth
  refine ⟨fun why refused => exists_descends refused, fun layers tip innermost descends => ?_⟩
  refine ⟨layers.foldr Layer.wrap innermost, descends.refused, ?_, fun some noCircle => ?_,
    Refusal.tag_prefix_message _, Layer.message_foldr_wrap layers innermost⟩
  · rw [Layer.fatal_foldr_wrap_iff, descends.fatal_iff]
  · rw [Layer.severity_foldr_wrap layers innermost some, if_neg (mt descends.fatal_iff.1 noCircle)]

/-- Both imports fail for the blank file, and neither is a fault in the wording of a command. -/
example : ((start ⟨[(["outer"], .file (.readable "import inner")), (["inner"], .file (.readable " "))],
      [], []⟩).execute "import outer").1 =
    .ok (.error (.importFailed "outer" (some ⟨1, "import inner"⟩)
      (.importFailed "inner" none .noText))) := by
  decide +kernel

/-- The file that imports itself is refused within its own import. -/
theorem execute_refused_through_loop :
    ∃ why, ((start loop).execute "import loop").1 = .ok (.error why) ∧ why.severity = .fatal ∧
      why.message = Layer.shown .fatal ⟨"loop", some ⟨2, "import ./loop"⟩⟩
        "Fatal Error: ./loop is already being imported." := by
  let begun := ((start loop).begun "import loop" ["loop"]).told "help; import ./loop"
  let helped : Workspace := (begun.runLine (runTo 1) "help").2
  have answered : (begun.runLine (runTo 1) "help").1 = .ok (.ok (.helped (helpOn []))) := by
    decide +kernel
  have ran : begun.runLine (runTo 1) "help" = (.ok (.ok (.helped (helpOn []))), helped) :=
    Prod.ext answered rfl
  have named : Command.readPath (keywordOf (trim "import ./loop")).2 = .ok "./loop" := by
    decide +kernel
  have found : importPlace "./loop" helped.disk = .ok ["loop"] := by decide +kernel
  have inProgress : (["loop"] : Place) ∈ helped.session.importing := by decide +kernel
  have unstarted : ¬ helped.StartsImport "import ./loop" := by
    rintro ⟨_, path, namedToo, place, script, foundToo, idle, _⟩
    obtain rfl := Except.ok.inj (named.symm.trans namedToo)
    obtain rfl := Except.ok.inj (found.symm.trans foundToo)
    exact idle inProgress
  have refused : (helped.runLine (runTo 1) "import ./loop").1 =
      .ok (.error (.importCycle "./loop")) := by
    decide +kernel
  have opens : (start loop).Opens "import loop" "loop" ["loop"] "help; import ./loop" :=
    ⟨rfl, by decide +kernel, by decide +kernel, by decide +kernel, by decide +kernel,
      by decide +kernel⟩
  have commands : commandsOf "help; import ./loop" = ["help"] ++ "import ./loop" :: [] := by
    decide +kernel
  have descends : Descends 2 "import loop" (start loop) [⟨"loop", some ⟨2, "import ./loop"⟩⟩]
      (.command "import ./loop" helped) (.importCycle "./loop") :=
    .within opens (by decide +kernel) commands (.cons ran (.nil _)) (.command unstarted refused)
  have isCircle : Tip.IsCircle (.command "import ./loop" helped) :=
    ⟨"./loop", by decide +kernel, ["loop"], inProgress, found⟩
  obtain ⟨why, failed, fatal, _, _, worded⟩ :=
    (execute_refused_through (start loop) "import loop").2 _ _ _ descends
  have innermost : Refusal.message (.importCycle "./loop") =
      "Fatal Error: ./loop is already being imported." := by
    decide +kernel
  refine ⟨why, failed, fatal.2 isCircle, ?_⟩
  rw [worded, fatal.2 isCircle, innermost]
  rfl

end Workspace

end AutomataShell
