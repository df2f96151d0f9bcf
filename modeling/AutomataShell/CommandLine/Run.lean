import AutomataShell.CommandLine.Arguments
import AutomataShell.CommandLine.Console
import AutomataShell.Machine.Drawing

/-! A run of the command line: scripts and command text, or else an interactive session, and at the
end the record and the drawing. -/

set_option autoImplicit false

namespace AutomataShell

open Text

/-- A script with the name under which it is reported. -/
structure Source where
  name : Text
  script : Text
  deriving DecidableEq, Repr

/-- A run that has ended, or that waits for a line. -/
inductive Progress where
  | ended (result : Ending × Console)
  | waiting (console : Console)

def promptText : Text := ">>> "

namespace Console

/-- Ends a run that failed. -/
def fail (failure : Failure Text) (console : Console) : Ending × Console :=
  match failure with
  | .refused message => (.exit 1, console.complain ("Error: " ++ message))
  | .broke why => (.broke why, console)

/-- The files among the sources, all read before anything runs. -/
def readScripts (disk : Disk) : List Text → Except (Failure FileError) (List Source)
  | [] => .ok []
  | name :: rest =>
    match disk.readText name with
    | .error failure => .error failure
    | .ok script => (readScripts disk rest).map (⟨name, script⟩ :: ·)

/-- The sources of a run. Command text comes after the files. -/
def sources (console : Console) : Except (Failure FileError) (List Source) :=
  (readScripts console.workspace.disk console.options.scripts).map fun files =>
    files ++ if console.options.command = [] then [] else [⟨"<command>", console.options.command⟩]

/-- Checks sources, each in a session of its own, and tells whether all are sound. -/
def checkSources : List Source → Bool → Console → Ending × Console
  | [], sound, console => (.exit (if sound then 0 else 1), console)
  | source :: rest, sound, console =>
    match console.perform (Workspace.check source.script) with
    | (.error failure, left) => left.fail (failure.map Refusal.message)
    | (.ok result, left) =>
      match result.failure with
      | none => (left.print (source.name ++ ": OK")).andThen id (checkSources rest sound)
      | some failure =>
        checkSources rest false (left.complain (source.name ++ ": " ++ failure.message))

/-- Runs sources in one session, until one fails or closes it. -/
def runSources : List Source → Console → Option Ending × Console
  | [], console => (none, console)
  | source :: rest, console =>
    if console.isClosed then
      -- One script is named as skipped, and the others behind it are not.
      (none, console.report (.skipped source.name))
    else
      let running := console.report (.running source.name)
      match running.perform (Workspace.executeScript source.script) with
      | (.error failure, left) =>
        let (ending, final) := left.fail (failure.map Refusal.message)
        (some ending, final)
      | (.ok result, left) =>
        (left.showResult result).andThen (fun (ending, final) => (some ending, final)) fun shown =>
          if result.succeeded then
            runSources rest shown
          else
            (some (.exit 1), shown.complain ("\tin " ++ source.name))

/-- The place that a path names, with a tilde taken as it stands. -/
def placeShown (console : Console) (path : Text) : Text :=
  ((Path.ofText path).resolve console.workspace.disk.directory).shown

/-- Prints a confirmation, unless the run is quiet. -/
def confirm (line : Text) (console : Console) : Shown :=
  if console.options.quiet then (.ok (), console) else console.print line

/-- Draws the machine into a file, if a path is given. -/
def writeDrawing (console : Console) : Ending × Console :=
  let path := console.options.dotPath
  match path, console.workspace.session.machine with
  | [], _ => (.exit 0, console)
  | _, none => (.exit 0, console.complain "No automaton defined; DOT file not written.")
  | _, some machine =>
    let drawing := machine.drawing .standard ++ "\n"
    match console.workspace.disk.writeText (Path.ofText path).shown drawing with
    | .error failure => console.fail (failure.map FileError.message)
    | .ok disk =>
      let written := { console with workspace := { console.workspace with disk } }
      (written.confirm ("DOT file written: " ++ console.placeShown path)).andThen id
        fun confirmed => (.exit 0, confirmed)

/-- Writes the record and the drawing, where paths for them are given. -/
def writeOutputs (console : Console) : Ending × Console :=
  let path := console.options.exportPath
  if path = [] ∧ console.options.dotPath = [] then
    (.exit 0, console)
  else if console.isClosed then
    (.exit 0, console.complain "Interpreter was closed; nothing to write.")
  else if path = [] then
    console.writeDrawing
  else
    match console.perform (Workspace.exportFile path) with
    | (.error failure, left) => left.fail (failure.map FileError.message)
    | (.ok count, left) =>
      (left.confirm ("Exported " ++ ofNat count ++ " command(s) to " ++
        left.placeShown path)).andThen id writeDrawing

def prompt (console : Console) : Progress :=
  if console.isClosed then
    .ended console.writeOutputs
  else
    (console.write promptText).andThen .ended .waiting

/-- Takes a line of an interactive session. -/
def feed (line : Text) (console : Console) : Progress :=
  if line.all isBlank then
    console.prompt
  else
    match console.perform (Workspace.executeScript line) with
    | (.error failure, left) => .ended (left.fail (failure.map Refusal.message))
    | (.ok result, left) => (left.showResult result).andThen .ended prompt

/-- Takes the end of the lines. -/
def endLines (console : Console) : Ending × Console :=
  (console.print []).andThen id writeOutputs

/-- Takes an interrupt from the keyboard. -/
def interrupt (console : Console) : Ending × Console :=
  (.exit 130, console.complain "\nAborted by user.")

/-- Starts a run. -/
def begin (console : Console) : Progress :=
  match console.sources with
  | .error failure => .ended (console.fail (failure.map FileError.message))
  | .ok sources =>
    match console.options.check, sources with
    | true, [] =>
      .ended (.exit 1, console.complain "Error: --check needs a script or --command.")
    | true, sources => .ended (checkSources sources true console)
    | false, [] => (console.print banner).andThen .ended prompt
    | false, sources =>
      match runSources sources console with
      | (some ending, left) => .ended (ending, left)
      | (none, left) => .ended left.writeOutputs

end Console

namespace Progress

def console : Progress → Console
  | .ended result => result.2
  | .waiting console => console

/-- The same state of a run once its output has been taken. -/
def withoutOutput : Progress → Progress
  | .ended result => .ended (result.1, { result.2 with printed := [] })
  | .waiting console => .waiting { console with printed := [] }

/-- Feeds lines while they are asked for; after the last one the lines end, or an interrupt comes. -/
def feedAll (interrupted : Bool) : List Text → Progress → Ending × Console
  | _, .ended result => result
  | [], .waiting console => if interrupted then console.interrupt else console.endLines
  | line :: rest, .waiting console => feedAll interrupted rest (console.feed line)

end Progress

/-- A whole run, with the lines that are typed if it asks for any, on a console with an encoding. -/
def runCommandLine (encoding : Encoding) (arguments : List Text) (lines : List Text)
    (interrupted : Bool) (disk : Disk) : Except Dismissal (Ending × Console) :=
  (Options.ofArguments arguments).map fun options =>
    (Console.start options encoding disk).begin.feedAll interrupted lines

end AutomataShell
