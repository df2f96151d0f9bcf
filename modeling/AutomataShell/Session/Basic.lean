import AutomataShell.Command.Verb
import AutomataShell.Disk.Basic
import AutomataShell.Machine.Basic
import AutomataShell.Session.Journal
import AutomataShell.Session.Refusal
import AutomataShell.Session.Reply

/-! A session works on at most one machine and records the lines that succeeded. It lives in a
workspace, beside the files and the journal. -/

set_option autoImplicit false

namespace AutomataShell

open Text

/-- The latest import in progress comes first. -/
structure Session where
  machine : Option Machine
  record : List Text
  closed : Bool
  importing : List Place
  successful : Bool
  deriving DecidableEq, Repr

/-- The lowered keyword of a line and its arguments. -/
def keywordOf (line : Text) : Text × Text :=
  ((lower (headWord line).1), (headWord line).2)

/-- Whether a replay of a session repeats the line. -/
def isReplayable (line : Text) : Bool :=
  (Verb.ofKeyword (keywordOf line).1).any Verb.isReplayed

namespace Session

def fresh : Session :=
  ⟨none, [], false, [], true⟩

variable (session : Session)

/-- The recorded lines that rebuild the machine. -/
def exportable : List Text :=
  session.record.filter isReplayable

/-- A new machine starts a new record. -/
def adopt (machine : Machine) : Session :=
  { session with machine := some machine, record := [] }

def replaceMachine (machine : Machine) : Session :=
  { session with machine := some machine }

def reset : Session :=
  { session with machine := none, record := [] }

def close : Session :=
  { session with machine := none, record := [], closed := true }

/-- Adds a line to the record, unless the line closed the session. -/
def remember (line : Text) : Session :=
  if session.closed then session else { session with record := session.record ++ [line] }

def beginImport (place : Place) : Session :=
  { session with importing := place :: session.importing }

def endImport : Session :=
  { session with importing := session.importing.tail }

def note (successful : Bool) : Session :=
  { session with successful }

theorem exportable_remember (line : Text) (isOpen : session.closed = false) :
    (session.remember line).exportable =
      session.exportable ++ if isReplayable line then [line] else [] := by
  unfold remember exportable
  rw [isOpen, if_neg Bool.false_ne_true, List.filter_append]
  by_cases replayed : isReplayable line = true <;> simp [replayed]

theorem remember_of_closed (line : Text) (isClosed : session.closed = true) :
    session.remember line = session := by
  rw [remember, if_pos isClosed]

end Session

/-- The latest event of the journal comes first. -/
structure Workspace where
  session : Session
  disk : Disk
  journal : List Event
  deriving DecidableEq, Repr

namespace Workspace

/-- A fresh session before some files. -/
def start (disk : Disk) : Workspace :=
  ⟨.fresh, disk, []⟩

variable (workspace : Workspace)

def log (event : Event) : Workspace :=
  { workspace with journal := event :: workspace.journal }

/-- Adds events in the order in which they happened. -/
def logAll (events : List Event) : Workspace :=
  { workspace with journal := events.reverse ++ workspace.journal }

def update (change : Session → Session) : Workspace :=
  { workspace with session := change workspace.session }

@[simp] theorem log_session (event : Event) :
    (workspace.log event).session = workspace.session := rfl

@[simp] theorem log_disk (event : Event) : (workspace.log event).disk = workspace.disk := rfl

@[simp] theorem logAll_session (events : List Event) :
    (workspace.logAll events).session = workspace.session := rfl

@[simp] theorem logAll_disk (events : List Event) :
    (workspace.logAll events).disk = workspace.disk := rfl

@[simp] theorem update_session (change : Session → Session) :
    (workspace.update change).session = change workspace.session := rfl

@[simp] theorem update_disk (change : Session → Session) :
    (workspace.update change).disk = workspace.disk := rfl

@[simp] theorem update_journal (change : Session → Session) :
    (workspace.update change).journal = workspace.journal := rfl

end Workspace

/-- A failure of a script: the refusal, and where it happened if that was a command. -/
structure BatchFailure where
  position : Option Position
  why : Refusal
  deriving DecidableEq, Repr

def BatchFailure.message (failure : BatchFailure) : Text :=
  failure.why.message ++ (failure.position.map Position.shown).getD []

/-- What the commands of a script said, up to the failure that ended it. -/
structure BatchResult where
  replies : List Reply
  failure : Option BatchFailure
  deriving DecidableEq, Repr

namespace BatchResult

def succeeded (result : BatchResult) : Bool :=
  result.failure.isNone

def failed (why : Refusal) : BatchResult :=
  ⟨[], some ⟨none, why⟩⟩

end BatchResult

end AutomataShell
