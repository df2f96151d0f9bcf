import AutomataShell.CommandLine.Options
import AutomataShell.Session.Execute
import AutomataShell.Text.Encoding

/-! A console: a workspace, and what has been printed so far on the two channels of output. The
journal appears on the error channel, from a level on. A character that the encoding of the console
lacks ends the run when it is to be printed, except on the error channel, where it is escaped. -/

set_option autoImplicit false

namespace AutomataShell

open Text

inductive Printed where
  | out (text : Text)
  | error (text : Text)
  deriving DecidableEq, Repr

/-- How a run ends: with a code, broken down, or at a line that could not be printed. -/
inductive Ending where
  | exit (code : Nat)
  | broke (why : Breakdown)
  | unencodable
  deriving DecidableEq, Repr

/-- The latest output comes first. -/
structure Console where
  options : Options
  encoding : Encoding
  workspace : Workspace
  printed : List Printed
  deriving DecidableEq, Repr

namespace Console

def start (options : Options) (encoding : Encoding) (disk : Disk) : Console :=
  ⟨options, encoding, .start disk, []⟩

/-- The end of the run if something could not be printed, and the console with what was. -/
abbrev Shown := Except Ending Unit × Console

/-- Goes on once everything has been printed. -/
def Shown.andThen {α : Type} (shown : Shown) (stop : Ending × Console → α) (next : Console → α) : α :=
  match shown with
  | (.error ending, left) => stop (ending, left)
  | (.ok (), left) => next left

variable (console : Console)

def write (text : Text) : Shown :=
  if console.encoding.carries text then
    (.ok (), { console with printed := .out text :: console.printed })
  else
    (.error .unencodable, console)

/-- Prints a line. -/
def print (line : Text) : Shown :=
  console.write (line ++ "\n")

/-- Prints lines until one cannot be printed. -/
def printAll : List Text → Console → Shown
  | [], console => (.ok (), console)
  | line :: rest, console =>
    match console.print line with
    | (.ok (), left) => printAll rest left
    | stopped => stopped

/-- Prints a line on the error channel. -/
def complain (line : Text) : Console :=
  let shown := console.encoding.escaped line ++ "\n"
  { console with printed := .error shown :: console.printed }

/-- Shows an event, if it is grave enough. -/
def report (event : Event) : Console :=
  if event.reaches console.options.logLevel then console.complain event.shown else console

/-- Lets the workspace do something, and shows what the journal tells of it. -/
def perform {Reason α : Type} (action : Workspace → Outcome Reason α) :
    Except (Failure Reason) α × Console :=
  let (result, left) := action console.workspace
  let quiet := { console with workspace := { left with journal := [] } }
  (result, left.journal.foldr (fun event console => console.report event) quiet)

/-- Shows what came of a script. -/
def showResult (result : BatchResult) : Shown :=
  let told :=
    if console.options.quiet then
      (.ok (), console)
    else
      console.printAll (result.replies.map Reply.message)
  match told, result.failure with
  | (.ok (), left), some failure => (.ok (), left.complain failure.message)
  | told, _ => told

def isClosed : Bool :=
  console.workspace.session.closed

/-- What was printed on each channel. -/
def output : Text :=
  console.printed.reverse.flatMap fun
    | .out text => text
    | .error _ => []

def errors : Text :=
  console.printed.reverse.flatMap fun
    | .out _ => []
    | .error text => text

end Console

end AutomataShell
