import AutomataShell.Proofs.Command.Capitals
import AutomataShell.Proofs.Session.Effect
import AutomataShell.Session.Execute

/-! Lines in which ASCII letters have changed their case. What is told of them is the same, and so is the
session that they leave, apart from their spelling in the record. Only file names depend on it. -/

set_option autoImplicit false

namespace AutomataShell

open Text

/-- What is told of a line that was answered: whether it succeeded, in which words, and how grave it is
if not. -/
structure Notice where
  succeeded : Bool
  message : Text
  severity : Option Severity
  deriving DecidableEq, Repr

def Notice.ofAnswer : Except Refusal Reply → Notice
  | .ok reply => ⟨true, reply.message, none⟩
  | .error why => ⟨false, why.message, some why.severity⟩

theorem Notice.ofAnswer_malformed (why : Malformed) :
    ofAnswer (.error (.malformed why)) =
      ⟨false, Severity.wording.tag ++ why.message, some .wording⟩ := rfl

/-- Whether a line has no verb that takes a file name. -/
def IsPathless (line : Text) : Prop :=
  ∀ verb, Verb.ofKeyword (keywordOf line).1 = some verb → verb.takesPath = false

/-- Whether two sessions agree up to the spelling of the line that was recorded last. -/
structure Session.AgreeUpTo (line lineToo : Text) (one other : Session) : Prop where
  same : one = { other with record := one.record }
  record : one.record = other.record ∨
    ∃ kept, one.record = kept ++ [line] ∧ other.record = kept ++ [lineToo]

/-- The session after a line was answered. -/
def Session.answered (line : Text) (session : Session) : Except Refusal Reply → Session
  | .ok _ => (session.remember line).note true
  | .error _ => session.note false

theorem Session.agreeUpTo_answered (line lineToo : Text) (session : Session)
    {answer answerToo : Except Refusal Reply}
    (told : Notice.ofAnswer answer = Notice.ofAnswer answerToo) :
    AgreeUpTo line lineToo (session.answered line answer) (session.answered lineToo answerToo) := by
  cases answer with
  | error why =>
    cases answerToo with
    | error whyToo => exact ⟨rfl, .inl rfl⟩
    | ok reply => cases congrArg Notice.succeeded told
  | ok reply =>
    cases answerToo with
    | error why => cases congrArg Notice.succeeded told
    | ok replyToo =>
      by_cases closed : session.closed = true
      · simp only [answered, remember, if_pos closed]
        exact ⟨rfl, .inl rfl⟩
      · simp only [answered, remember, if_neg closed]
        exact ⟨rfl, .inr ⟨session.record, rfl, rfl⟩⟩

theorem keywordOf_small (line : Text) :
    keywordOf (small line) = ((keywordOf line).1, small (keywordOf line).2) := by
  rw [keywordOf, headWord_small, lower_small, keywordOf]

theorem isPathless_small {line : Text} (pathless : IsPathless line) : IsPathless (small line) := by
  unfold IsPathless
  rw [keywordOf_small]
  exact pathless

theorem isPathless_of_keyword {line : Text} (noImport : (keywordOf line).1 ≠ "import")
    (noExport : (keywordOf line).1 ≠ "export") : IsPathless line := by
  intro verb known
  have listed : ∀ entry ∈ Verb.keywords,
      entry.1 ≠ ("import" : Text) → entry.1 ≠ ("export" : Text) → entry.2.takesPath = false := by
    decide
  exact listed _ (Verb.mem_keywords_of_ofKeyword known) noImport noExport

namespace Workspace

variable {workspace : Workspace}

/-- A way to act on a workspace that comes to an answer and a change of the session, whatever runs the
scripts of imports and whatever the journal holds. -/
def Settles (act : Runner → Workspace → Outcome Refusal Reply) (workspace : Workspace)
    (answer : Except Refusal Reply) (session : Session) : Prop :=
  ∀ nested journal, act nested { workspace with journal } =
    (answer.mapError .refused, { workspace with session, journal })

/-- A single run tells what a way to act comes to. -/
theorem Settles.eq_of_run {act : Runner → Workspace → Outcome Refusal Reply}
    {answer answerToo : Except Refusal Reply} {session sessionToo : Session}
    (settles : workspace.Settles act answer session) (nested : Runner) (journal : List Event)
    (ran : act nested { workspace with journal } =
      (answerToo.mapError .refused, { workspace with session := sessionToo, journal })) :
    answer = answerToo ∧ session = sessionToo := by
  have same := (settles nested journal).symm.trans ran
  simp only [Prod.mk.injEq, Workspace.mk.injEq] at same
  refine ⟨?_, same.2.1⟩
  cases answer <;> cases answerToo <;> simpa using same.1

theorem edit_settles (change : Machine → Machine.Called Refusal Reply) (workspace : Workspace) :
    ∃ answer session, workspace.Settles (fun _ other => other.edit change) answer session := by
  cases held : workspace.session.machine with
  | none =>
    refine ⟨.error .noMachine, workspace.session, fun _ journal => ?_⟩
    simp only [edit, held]
    rfl
  | some machine =>
    refine ⟨(change machine).1, workspace.session.replaceMachine (change machine).2,
      fun _ journal => ?_⟩
    simp only [edit, held]
    rfl

theorem perform_settles {command : Command} (pathless : command.verb.takesPath = false)
    (workspace : Workspace) :
    ∃ answer session,
      workspace.Settles (fun nested other => other.perform nested command) answer session := by
  cases command with
  | exportFile | importFile => cases pathless
  | create kind symbols =>
    cases made : Machine.create kind (some (symbols.map Label.ofChar)) with
    | error why =>
      refine ⟨.error (.machine why), workspace.session, fun _ journal => ?_⟩
      simp only [perform, create, made]
      rfl
    | ok machine =>
      refine ⟨.ok .created, workspace.session.adopt machine, fun _ journal => ?_⟩
      simp only [perform, create, made]
      rfl
  | add | connect | accept | execute | displayAll | display =>
    simp only [perform]
    exact edit_settles _ workspace
  | help topic => exact ⟨.ok (.helped (helpOn topic)), workspace.session, fun _ _ => rfl⟩
  | exit => exact ⟨.ok .closing, workspace.session.close, fun _ _ => rfl⟩

theorem dispatch_settles {line : Text} (pathless : IsPathless line) (workspace : Workspace) :
    ∃ answer session,
      workspace.Settles (fun nested other => other.dispatch nested line) answer session := by
  cases known : Verb.ofKeyword (keywordOf line).1 with
  | none =>
    refine ⟨.error (.malformed (.unknownVerb (keywordOf line).1)), workspace.session, fun _ _ => ?_⟩
    simp only [dispatch, known]
    rfl
  | some verb =>
    by_cases missing : (verb.needsMachine && workspace.session.machine.isNone) = true
    · refine ⟨.error .noMachine, workspace.session, fun _ _ => ?_⟩
      simp only [dispatch, known, if_pos missing]
      rfl
    · cases read : Command.read verb (keywordOf line).2 with
      | error why =>
        refine ⟨.error (.malformed why), workspace.session, fun _ _ => ?_⟩
        simp only [dispatch, known, if_neg missing, read]
        rfl
      | ok command =>
        have noPath : command.verb.takesPath = false := by
          rw [Command.verb_of_read read]
          exact pathless verb known
        obtain ⟨answer, session, performed⟩ := perform_settles noPath workspace
        refine ⟨answer, session, fun nested journal => ?_⟩
        rw [← performed nested journal]
        simp only [dispatch, known, if_neg missing, read]

/-- The small letters are dispatched as the line itself, unless it names a kind that there is not. -/
theorem dispatch_small {line : Text} (pathless : IsPathless line) (nested : Runner)
    (workspace : Workspace) :
    workspace.dispatch nested (small line) = workspace.dispatch nested line ∨
      ∃ kind, workspace.dispatch nested line =
          (.error (.refused (.malformed (.unknownKind kind))), workspace) ∧
        workspace.dispatch nested (small line) =
          (.error (.refused (.malformed (.unknownKind (small kind)))), workspace) := by
  cases known : Verb.ofKeyword (keywordOf line).1 with
  | none => exact .inl (by simp only [dispatch, keywordOf_small, known])
  | some verb =>
    by_cases missing : (verb.needsMachine && workspace.session.machine.isNone) = true
    · exact .inl (by simp only [dispatch, keywordOf_small, known, if_pos missing])
    · rcases Command.read_small (pathless verb known) (keywordOf line).2 with same | ⟨kind, one, other⟩
      · exact .inl (by simp only [dispatch, keywordOf_small, known, if_neg missing, same])
      · refine .inr ⟨kind, ?_, ?_⟩
        · simp only [dispatch, known, if_neg missing, one]
        · simp only [dispatch, keywordOf_small, known, if_neg missing, other]

/-- A line and its small letters come to the same change, and the same is told of both. -/
theorem exists_settles_small {line : Text} (pathless : IsPathless line) (workspace : Workspace) :
    ∃ answer answerToo session,
      workspace.Settles (fun nested other => other.dispatch nested line) answer session ∧
        workspace.Settles (fun nested other => other.dispatch nested (small line)) answerToo session ∧
        Notice.ofAnswer answer = Notice.ofAnswer answerToo := by
  obtain ⟨answer, session, settles⟩ := dispatch_settles pathless workspace
  obtain ⟨answerToo, sessionToo, settlesToo⟩ :=
    dispatch_settles (isPathless_small pathless) workspace
  rcases dispatch_small pathless (runTo 0) workspace with same | ⟨kind, ran, ranToo⟩
  · obtain ⟨rfl, rfl⟩ :=
      settlesToo.eq_of_run (runTo 0) workspace.journal
        (same.trans (settles (runTo 0) workspace.journal))
    exact ⟨_, _, _, settles, settlesToo, rfl⟩
  · have came : answer = .error (.malformed (.unknownKind kind)) ∧ session = workspace.session :=
      settles.eq_of_run (runTo 0) workspace.journal ran
    have cameToo : answerToo = .error (.malformed (.unknownKind (small kind))) ∧
        sessionToo = workspace.session :=
      settlesToo.eq_of_run (runTo 0) workspace.journal ranToo
    obtain ⟨rfl, rfl⟩ := came
    obtain ⟨rfl, rfl⟩ := cameToo
    refine ⟨_, _, _, settles, settlesToo, ?_⟩
    rw [Notice.ofAnswer_malformed, Notice.ofAnswer_malformed, Malformed.message_unknownKind_small]

/-- A line whose change is settled is answered with what the change comes to. -/
theorem runLine_of_settles {line : Text} {answer : Except Refusal Reply} {session : Session}
    (isOpen : workspace.session.closed = false)
    (settles : workspace.Settles (fun nested other => other.dispatch nested (trim line))
      answer session) (nested : Runner) :
    ∃ left, workspace.runLine nested line = (.ok answer, left) ∧
      left.session = session.answered (trim line) answer ∧ left.disk = workspace.disk := by
  have ran := settles nested (Event.dispatched (trim line) :: workspace.journal)
  simp only at ran
  rw [runLine, if_neg (by simp [isOpen]), log, ran]
  cases answer with
  | ok reply => exact ⟨_, rfl, rfl, rfl⟩
  | error why => exact ⟨_, rfl, rfl, rfl⟩

/-- Commands are not case-sensitive: two lines that differ in the case of ASCII letters only, and whose
verb takes no file name, are answered alike and leave the same session, apart from their spelling in
the record. -/
theorem execute_of_recased {first second : Text}
    (recased : first.map Char.toLower = second.map Char.toLower)
    (isOpen : workspace.session.closed = false)
    (noImport : (keywordOf (trim first)).1 ≠ "import")
    (noExport : (keywordOf (trim first)).1 ≠ "export") :
    ∃ answer answerToo left leftToo,
      workspace.execute first = (.ok answer, left) ∧
        workspace.execute second = (.ok answerToo, leftToo) ∧
        Notice.ofAnswer answer = Notice.ofAnswer answerToo ∧
        left.session.AgreeUpTo (trim first) (trim second) leftToo.session ∧
        left.disk = leftToo.disk := by
  have sameSmall : small (trim first) = small (trim second) := by
    rw [← trim_small, ← trim_small]
    exact congrArg trim recased
  have pathless : IsPathless (trim first) := isPathless_of_keyword noImport noExport
  have pathlessToo : IsPathless (trim second) := by
    have smallToo := isPathless_small pathless
    rw [sameSmall, IsPathless, keywordOf_small] at smallToo
    exact smallToo
  -- Both lines come to what their common small letters come to.
  obtain ⟨answer, common, session, settles, settlesSmall, told⟩ :=
    exists_settles_small pathless workspace
  obtain ⟨answerToo, commonToo, sessionToo, settlesToo, settlesSmallToo, toldToo⟩ :=
    exists_settles_small pathlessToo workspace
  rw [← sameSmall] at settlesSmallToo
  obtain ⟨rfl, rfl⟩ :=
    settlesSmall.eq_of_run (runTo 0) workspace.journal
      (settlesSmallToo (runTo 0) workspace.journal)
  have alike := told.trans toldToo.symm
  obtain ⟨left, ran, sessionLeft, disk⟩ := runLine_of_settles isOpen settles
    (runTo (workspace.importDepth 0))
  obtain ⟨leftToo, ranToo, sessionLeftToo, diskToo⟩ := runLine_of_settles isOpen settlesToo
    (runTo (workspace.importDepth 0))
  refine ⟨answer, answerToo, left, leftToo, ran, ranToo, alike, ?_, disk.trans diskToo.symm⟩
  rw [sessionLeft, sessionLeftToo]
  exact Session.agreeUpTo_answered _ _ _ alike

/-- A machine that reads the sigma that ends a word. -/
def finalSigma : Workspace :=
  ((start ⟨[], [], []⟩).executeScript "create nfa a, ς; add x").2

/-- The sigma becomes the one that ends a word behind either spelling of the letter. -/
theorem execute_of_recased_finalSigma :
    ∃ answer answerToo left leftToo,
      finalSigma.execute "Execute AΣ" = (.ok answer, left) ∧
        finalSigma.execute "eXecute aΣ" = (.ok answerToo, leftToo) ∧
        Notice.ofAnswer answer = Notice.ofAnswer answerToo ∧
        left.session.AgreeUpTo "Execute AΣ" "eXecute aΣ" leftToo.session := by
  have trimmed : trim "Execute AΣ" = "Execute AΣ" := by decide
  have trimmedToo : trim "eXecute aΣ" = "eXecute aΣ" := by decide
  have recased : List.map Char.toLower "Execute AΣ" = List.map Char.toLower "eXecute aΣ" := by
    decide
  have isOpen : finalSigma.session.closed = false := by decide +kernel
  obtain ⟨answer, answerToo, left, leftToo, ran, ranToo, told, agree, _⟩ :=
    execute_of_recased recased isOpen (by decide +kernel) (by decide +kernel)
  rw [trimmed, trimmedToo] at agree
  exact ⟨answer, answerToo, left, leftToo, ran, ranToo, told, agree⟩

end Workspace

end AutomataShell
