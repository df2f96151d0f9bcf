import AutomataShell.Session.Execute

/-! Checks of a text that is being edited, each on a thread of its own. A text is taken up unless it is
the one taken up last, or the lock is held, as it is by every thread until it ends.

To hand a report over and to give the lock back are assumed to be one step, so nothing comes between a
delivery and the end of its thread. A receiver that fails is assumed to have received nothing, whatever
it had done with the report by then: its thread ends as one whose check breaks down. -/

set_option autoImplicit false

namespace AutomataShell

open Text

/-- What a check has to tell. A blank text has no result. -/
abbrev Report := Option BatchResult

/-- A check of a text on some files. One that breaks down has nothing to tell. -/
def examination (text : Text) (disk : Disk) : Option Report × Disk :=
  if text.all isBlank then
    (some none, disk)
  else
    match (Workspace.start disk).check text with
    | (.ok result, left) => (some (some result), left.disk)
    | (.error _, left) => (none, left.disk)

/-- Where a thread stands: it checks its text, then hands over the report. -/
inductive Stage where
  | checking
  | reporting (report : Report)
  deriving DecidableEq, Repr

/-- The thread of a check. Checks are numbered as they are started. -/
structure Worker where
  number : Nat
  text : Text
  stage : Stage
  deriving DecidableEq, Repr

/-- A number for a text, another one for every other text. -/
def fingerprint : Text → Int
  | [] => 0
  | c :: rest => fingerprint rest * 0x110000 + c.toNat + 1

/-- Of the text taken up last only the fingerprint is kept. Threads and delivered reports are listed
with the latest first. -/
structure Checker where
  taken : Option Int
  locked : Bool
  started : Nat
  workers : List Worker
  delivered : List Report
  deriving DecidableEq, Repr

namespace Checker

def start : Checker :=
  ⟨none, false, 0, [], []⟩

variable (checker : Checker)

def busy : Bool :=
  checker.locked

/-- Whether the text is taken up, and the checker after that. -/
def submitBy (hash : Text → Int) (text : Text) : Bool × Checker :=
  if checker.taken = some (hash text) then
    (false, checker)
  else if checker.locked then
    (false, checker)
  else
    (true, { checker with
      taken := some (hash text)
      locked := true
      started := checker.started + 1
      workers := ⟨checker.started, text, .checking⟩ :: checker.workers })

theorem submitBy_fst (hash : Text → Int) (text : Text) :
    (checker.submitBy hash text).1 = true ↔
      checker.locked = false ∧ checker.taken ≠ some (hash text) := by
  unfold submitBy
  split
  · simp [*]
  · split <;> simp [*]

def submit (text : Text) : Bool × Checker :=
  checker.submitBy fingerprint text

/-- Forgets which text was taken up last. -/
def forget : Checker :=
  { checker with taken := none }

/-- A thread ends, in whichever way, and gives the lock back. -/
def finish (worker : Worker) : Checker :=
  { checker with locked := false, workers := checker.workers.erase worker }

/-- A thread makes its check, on some files. -/
def examineBy (worker : Worker) (disk : Disk) : Checker × Disk :=
  match worker.stage with
  | .reporting _ => (checker, disk)
  | .checking =>
    match examination worker.text disk with
    | (none, left) => (checker.finish worker, left)
    | (some report, left) =>
      let reporting := { worker with stage := .reporting report }
      ({ checker with workers := checker.workers.replace worker reporting }, left)

/-- A thread hands its report over, the receiver takes it, and the thread ends, all at once. -/
def deliverBy (worker : Worker) : Checker :=
  match worker.stage with
  | .checking => checker
  | .reporting report => { checker.finish worker with delivered := report :: checker.delivered }

/-- The latest thread makes its check. -/
def examine (disk : Disk) : Checker × Disk :=
  match checker.workers with
  | [] => (checker, disk)
  | worker :: _ => checker.examineBy worker disk

/-- The latest thread hands its report over. -/
def deliver : Checker :=
  match checker.workers with
  | [] => checker
  | worker :: _ => checker.deliverBy worker

/-- The receiver of the latest thread fails, and counts as having received nothing. -/
def crash : Checker :=
  match checker.workers with
  | [] => checker
  | worker :: _ => checker.finish worker

end Checker

end AutomataShell
