import AutomataShell.CommandLine.Run
import AutomataShell.Proofs.Session.Following

/-! A check and the run that it stands for. The check runs each source in a session of its own, the
run all of them in one, so the session of a check has nothing yet wherever the run has got. -/

set_option autoImplicit false

namespace AutomataShell

open Text

namespace Console

/-- Nothing but the output differs. -/
structure Prints (before after : Console) : Prop where
  workspace : after.workspace = before.workspace
  options : after.options = before.options
  encoding : after.encoding = before.encoding

/-- What printing comes to: all is printed, or a character is met that the encoding lacks. -/
structure Shows (before : Console) (shown : Shown) : Prop where
  prints : before.Prints shown.2
  stops : ∀ ending, shown.1 = .error ending → ending = .unencodable ∧ ¬ before.encoding.IsFull

variable {Reason α : Type} (console : Console)

theorem prints_refl : console.Prints console :=
  ⟨rfl, rfl, rfl⟩

theorem Prints.trans {first second third : Console} (before : first.Prints second)
    (after : second.Prints third) : first.Prints third :=
  ⟨after.workspace.trans before.workspace, after.options.trans before.options,
    after.encoding.trans before.encoding⟩

theorem Prints.shows {first second : Console} {shown : Shown} (before : first.Prints second)
    (after : second.Shows shown) : first.Shows shown :=
  ⟨before.trans after.prints, fun ending stopped => before.encoding ▸ after.stops ending stopped⟩

theorem report_prints (event : Event) : console.Prints (console.report event) := by
  unfold report
  split <;> exact ⟨rfl, rfl, rfl⟩

theorem print_of_not_carried {line : Text}
    (carried : console.encoding.carries (line ++ "\n") = false) :
    console.print line = (.error .unencodable, console) := by
  rw [print, write, carried]
  rfl

theorem print_of_carried {line : Text}
    (carried : console.encoding.carries (line ++ "\n") = true) :
    ∃ told, console.Prints told ∧ console.print line = (.ok (), told) := by
  rw [print, write, if_pos carried]
  refine ⟨_, ?_, rfl⟩
  exact ⟨rfl, rfl, rfl⟩

theorem print_shows (line : Text) : console.Shows (console.print line) := by
  cases carried : console.encoding.carries (line ++ "\n") with
  | true =>
    obtain ⟨told, prints, printed⟩ := console.print_of_carried carried
    rw [printed]
    exact ⟨prints, fun ending stopped => by cases stopped⟩
  | false =>
    rw [console.print_of_not_carried carried]
    refine ⟨console.prints_refl, fun ending stopped => ?_⟩
    cases stopped
    refine ⟨rfl, fun full => ?_⟩
    rw [full.carries] at carried
    cases carried

theorem printAll_shows (lines : List Text) (console : Console) :
    console.Shows (console.printAll lines) := by
  induction lines generalizing console with
  | nil => exact ⟨console.prints_refl, fun ending stopped => by cases stopped⟩
  | cons line rest ih =>
    have first := console.print_shows line
    unfold printAll
    split
    · rename_i left printed
      rw [printed] at first
      exact first.prints.shows (ih left)
    · exact first

theorem showResult_shows (result : BatchResult) : console.Shows (console.showResult result) := by
  unfold showResult
  have told : console.Shows (if console.options.quiet then (.ok (), console) else
      console.printAll (result.replies.map Reply.message)) := by
    split
    · exact ⟨console.prints_refl, fun ending stopped => by cases stopped⟩
    · exact printAll_shows _ console
  generalize (if console.options.quiet then _ else _ : Shown) = shown at told ⊢
  simp only
  split
  · exact ⟨told.prints.trans ⟨rfl, rfl, rfl⟩, fun ending stopped => by cases stopped⟩
  · exact told

/-- A quiet run shows no replies. -/
theorem showResult_of_quiet (result : BatchResult) (quiet : console.options.quiet = true) :
    (console.showResult result).1 = .ok () := by
  unfold showResult
  rw [if_pos quiet]
  cases result.failure <;> rfl

/-- The action happens to the workspace, and its journal is shown. -/
theorem perform_prints (action : Workspace → Outcome Reason α) :
    Prints { console with workspace := { (action console.workspace).2 with journal := [] } }
      (console.perform action).2 := by
  unfold perform
  simp only
  generalize (action console.workspace).2.journal = events
  induction events with
  | nil => exact prints_refl _
  | cons event rest ih => exact ih.trans (report_prints _ event)

theorem checkSources_of_unsound (sources : List Source) :
    (console.checkSources sources false).1 ≠ .exit 0 := by
  induction sources generalizing console with
  | nil => simp [checkSources]
  | cons source rest ih =>
    unfold checkSources
    split
    · rename_i failure left _
      cases failure <;> simp [fail, Failure.map]
    · rename_i result left _
      split
      · have shows := left.print_shows (source.name ++ ": OK")
        generalize left.print (source.name ++ ": OK") = shown at shows ⊢
        obtain ⟨told, next⟩ := shown
        cases told with
        | error ending =>
          obtain ⟨rfl, _⟩ := shows.stops ending rfl
          simp [Shown.andThen]
        | ok nothing => exact ih next
      · exact ih _

/-- A check that finds nothing wrong has run each source with success, and has said so. -/
theorem checkSources_cons_sound {source : Source} {rest : List Source}
    (sound : (console.checkSources (source :: rest) true).1 = .exit 0) :
    ∃ result told, (console.workspace.check source.script).1 = .ok result ∧
      result.failure = none ∧
      Prints { console with
        workspace := { (console.workspace.check source.script).2 with journal := [] } } told ∧
      (checkSources rest true told).1 = .exit 0 := by
  have performed := console.perform_prints (Workspace.check source.script)
  unfold checkSources at sound
  split at sound
  · rename_i failure left _
    cases failure <;> simp [fail, Failure.map] at sound
  · rename_i result left same
    rw [same] at performed
    split at sound
    · rename_i unfailed
      have shows := left.print_shows (source.name ++ ": OK")
      generalize left.print (source.name ++ ": OK") = shown at shows sound
      obtain ⟨told, next⟩ := shown
      cases told with
      | error ending =>
        obtain ⟨rfl, _⟩ := shows.stops ending rfl
        cases sound
      | ok nothing =>
        exact ⟨result, next, congrArg Prod.fst same, unfailed, performed.trans shows.prints, sound⟩
    · exact absurd sound (checkSources_of_unsound _ rest)

/-- A source that succeeds hands the session and the files to the sources after it, unless one of its
replies cannot be printed. -/
theorem runSources_cons_of_sound {runner : Console} (isOpen : runner.isClosed = false)
    {source : Source} {result : BatchResult}
    (answer : (runner.workspace.executeScript source.script).1 = .ok result)
    (unfailed : result.failure = none) (rest : List Source) :
    ∃ next,
      Prints { runner with
        workspace := { (runner.workspace.executeScript source.script).2 with journal := [] } } next ∧
      (runSources (source :: rest) runner = runSources rest next ∨
        runSources (source :: rest) runner = (some .unencodable, next) ∧
          runner.options.quiet = false ∧ ¬ runner.encoding.IsFull) := by
  have running := runner.report_prints (.running source.name)
  rw [runSources, if_neg (by simp [isOpen])]
  simp only
  generalize runner.report (.running source.name) = started at running ⊢
  have performed := started.perform_prints (Workspace.executeScript source.script)
  rw [← running.workspace] at answer ⊢
  rw [← running.options, ← running.encoding]
  have same : (started.perform (Workspace.executeScript source.script)).1 = .ok result := answer
  generalize started.perform (Workspace.executeScript source.script) = outcome at same performed ⊢
  obtain ⟨answered, left⟩ := outcome
  simp only at same
  subst same
  simp only
  have shows := performed.shows (left.showResult_shows result)
  have quietly := left.showResult_of_quiet result
  generalize left.showResult result = shown at shows quietly ⊢
  obtain ⟨told, next⟩ := shown
  refine ⟨next, ⟨shows.prints.workspace, shows.prints.options.trans rfl, shows.prints.encoding⟩, ?_⟩
  cases told with
  | ok nothing =>
    left
    simp only [Shown.andThen]
    rw [if_pos (by simp [BatchResult.succeeded, unfailed])]
  | error ending =>
    right
    obtain ⟨rfl, notFull⟩ := shows.stops ending rfl
    refine ⟨rfl, ?_, notFull⟩
    cases quiet : started.options.quiet with
    | false => rfl
    | true => cases quietly (performed.options.symm ▸ quiet)

/-- Where a check in fresh sessions finds nothing wrong, no source fails in a shared session, whatever
that has done so far, though a reply may be met that cannot be printed. The files of the check may be
blank where the run has exported some lines. -/
theorem runSources_of_checkSources {sources : List Source} {checker runner : Console}
    (fresh : checker.workspace.session = .fresh)
    (idle : runner.workspace.session.importing = [])
    (disk : checker.workspace.disk.Resembles False runner.workspace.disk)
    (sound : (checkSources sources true checker).1 = .exit 0) :
    ∃ left, left.options = runner.options ∧
      (runSources sources runner = (none, left) ∨
        runSources sources runner = (some .unencodable, left) ∧
          runner.options.quiet = false ∧ ¬ runner.encoding.IsFull) := by
  -- What the two share from source to source are the files, up to blanks.
  induction sources generalizing checker runner with
  | nil => exact ⟨runner, rfl, .inl rfl⟩
  | cons source rest ih =>
    cases isClosed : runner.isClosed with
    | true =>
      refine ⟨runner.report (.skipped source.name), (runner.report_prints _).options, .inl ?_⟩
      rw [runSources, if_pos isClosed]
    | false =>
      obtain ⟨result, told, checked, unfailed, passed, soundRest⟩ :=
        checker.checkSources_cons_sound sound
      have agree : Workspace.Agree False Workspace.Sound
          (({ checker.workspace with session := .fresh } : Workspace).executeScript source.script)
          (runner.workspace.executeScript source.script) := by
        apply Workspace.executeScript_agrees
        · exact ⟨isClosed.symm, idle.symm⟩
        · exact disk
        · exact fun _ => Or.inr ⟨id, rfl, rfl⟩
      obtain ⟨same, disks, _⟩ := agree (Or.inr ⟨result, checked, unfailed⟩)
      obtain ⟨next, left, goesOn | ⟨stops, loud, notFull⟩⟩ :=
        runSources_cons_of_sound isClosed (same.symm.trans checked) unfailed rest
      · have freshOn : told.workspace.session = .fresh := by
          rw [passed.workspace]
          exact fresh
        have idleOn : next.workspace.session.importing = [] := by
          rw [left.workspace]
          exact (Workspace.runScript_importing (Workspace.runTo_endsImports _) _ _).trans idle
        have diskOn : told.workspace.disk.Resembles False next.workspace.disk := by
          rw [left.workspace, passed.workspace]
          exact disks
        obtain ⟨final, options, ends⟩ := ih freshOn idleOn diskOn soundRest
        rw [left.options, left.encoding] at ends
        exact ⟨final, options.trans left.options, goesOn ▸ ends⟩
      · exact ⟨next, left.options, .inr ⟨stops, loud, notFull⟩⟩

theorem writeOutputs_of_none {console : Console} (exportless : console.options.exportPath = [])
    (drawless : console.options.dotPath = []) : console.writeOutputs = (.exit 0, console) := by
  unfold writeOutputs
  simp only
  rw [if_pos ⟨exportless, drawless⟩]

theorem fail_ne_zero (failure : Failure Text) : (console.fail failure).1 ≠ .exit 0 := by
  cases failure <;> simp [fail]

theorem feedAll_ended (interrupted : Bool) (lines : List Text) (result : Ending × Console) :
    (Progress.ended result).feedAll interrupted lines = result := by
  cases lines <;> rfl

/-- A check that ends well had sources to check. It never asks for a line. -/
theorem exists_sources_of_check {console final : Console} (checks : console.options.check = true)
    {interrupted : Bool} {lines : List Text}
    (ended : console.begin.feedAll interrupted lines = (.exit 0, final)) :
    ∃ source rest, console.sources = .ok (source :: rest) ∧
      checkSources (source :: rest) true console = (.exit 0, final) := by
  unfold begin at ended
  rw [checks] at ended
  cases collected : console.sources with
  | error failure =>
    simp only [collected, feedAll_ended] at ended
    exact absurd (congrArg Prod.fst ended) (console.fail_ne_zero _)
  | ok sources =>
    rcases sources with _ | ⟨source, rest⟩
    · simp [collected, feedAll_ended] at ended
    · simp only [collected, feedAll_ended] at ended
      exact ⟨source, rest, rfl, ended⟩

theorem begin_of_through {console left : Console} (runs : console.options.check = false)
    {source : Source} {rest : List Source} (collected : console.sources = .ok (source :: rest))
    (ran : runSources (source :: rest) console = (none, left)) :
    console.begin = .ended left.writeOutputs := by
  unfold begin
  simp only [collected, runs, ran]

theorem begin_of_stopped {console left : Console} (runs : console.options.check = false)
    {source : Source} {rest : List Source} (collected : console.sources = .ok (source :: rest))
    {ending : Ending} (ran : runSources (source :: rest) console = (some ending, left)) :
    console.begin = .ended (ending, left) := by
  unfold begin
  simp only [collected, runs, ran]

end Console

variable {encoding : Encoding} {checking running : List Text} {asked options : Options} {disk : Disk}
  {lines : List Text} {interrupted : Bool} {last : Console}

/-- Whenever a check of scripts and command text exits with zero, a run of the same scripts and text
on the same files ends with zero too, or at a reply that the console cannot print. -/
theorem runCommandLine_ends_of_check (askedRead : Options.ofArguments checking = .ok asked)
    (checks : asked.check = true) (read : Options.ofArguments running = .ok options)
    (runs : options.check = false) (sameScripts : options.scripts = asked.scripts)
    (sameCommand : options.command = asked.command) (exportless : options.exportPath = [])
    (drawless : options.dotPath = [])
    (sound : runCommandLine encoding checking lines interrupted disk = .ok (.exit 0, last))
    (typed : List Text) (aborted : Bool) :
    ∃ left, runCommandLine encoding running typed aborted disk = .ok (.exit 0, left) ∨
      runCommandLine encoding running typed aborted disk = .ok (.unencodable, left) ∧
        options.quiet = false ∧ ¬ encoding.IsFull := by
  rw [runCommandLine, askedRead] at sound
  rw [runCommandLine, read]
  have ended : (Console.start asked encoding disk).begin.feedAll interrupted lines =
      (.exit 0, last) := Except.ok.inj sound
  obtain ⟨source, rest, collected, checked⟩ := Console.exists_sources_of_check checks ended
  have sameSources : (Console.start options encoding disk).sources = .ok (source :: rest) := by
    rw [← collected, Console.sources, Console.sources, Console.start, Console.start, sameScripts,
      sameCommand]
  have disks : (Console.start asked encoding disk).workspace.disk.Resembles False
      (Console.start options encoding disk).workspace.disk := disk.resembles_refl
  obtain ⟨left, kept, ran⟩ :=
    Console.runSources_of_checkSources rfl rfl disks (congrArg Prod.fst checked)
  refine ⟨left, ?_⟩
  rw [Except.map]
  rcases ran with ran | ⟨ran, loud, notFull⟩
  · have nothingWritten : left.writeOutputs = (.exit 0, left) := by
      apply Console.writeOutputs_of_none
      · rw [kept]
        exact exportless
      · rw [kept]
        exact drawless
    left
    rw [Console.begin_of_through runs sameSources ran, Console.feedAll_ended, nothingWritten]
  · right
    rw [Console.begin_of_stopped runs sameSources ran, Console.feedAll_ended]
    exact ⟨rfl, loud, notFull⟩

/-- The second script exports, and the third closes the session before the command text is reached. -/
def threeScripts : Disk :=
  ⟨[(["first"], .file (.readable "create nfa a; add x; execute ä")),
    (["second"], .file (.readable "export copy; help")), (["third"], .file (.readable "exit"))],
    [], []⟩

def optionsForThree (check : Bool) : Options :=
  ⟨["first", "second", "third"], check, false, "create dfa b", [], [], .warning⟩

/-- An encoding without the letter that is asked about lets the check pass, and ends the run. -/
example :
    (runCommandLine ⟨[(0, 127)]⟩ ["--check", "first"] [] false threeScripts).map Prod.fst =
        .ok (.exit 0) ∧
      (runCommandLine ⟨[(0, 127)]⟩ ["first"] [] false threeScripts).map Prod.fst =
        .ok .unencodable := by
  decide +kernel

end AutomataShell
