import AutomataShell.CommandLine.Run
import AutomataShell.Session.Opening

/-! The program. Before each step it loads the files that the step may open, and after it the files
that have changed are stored and the output is printed. -/

set_option autoImplicit false

namespace AutomataShell.Program

open Text

/-- What the machine holds at a place. Whatever cannot be read counts as absent. -/
def lookAt (place : Place) : IO (Option Entry) := do
  match ← (IO.FS.readBinFile (String.ofList place.shown)).toBaseIO with
  | .ok bytes => return some (.file (.ofBytes bytes.toList))
  | .error (.inappropriateType ..) => return some .directory
  | .error _ => return none

def loadPlace (disk : Disk) (place : Place) : IO Disk := do
  match ← lookAt place with
  | some entry => return disk.put place entry
  | none => return disk

/-- Loads what lies along paths, and along the paths that the files there open in their turn. -/
partial def load (seen : List Text) : List Text → Disk → IO Disk
  | [], disk => return disk
  | path :: rest, disk => do
    if seen.contains path || path.contains '\x00' then
      load seen rest disk
    else
      let loaded ← (disk.route path).foldlM loadPlace disk
      let opened :=
        match loaded.readText path with
        | .ok script => openedPaths loaded script
        | .error _ => []
      load (path :: seen) (opened ++ rest) loaded

/-- The paths that a run may open when it takes some text. -/
def pathsAhead (console : Console) (text : Text) : List Text :=
  let disk := console.workspace.disk
  let options := console.options
  options.scripts ++ openedPaths disk text ++ [(Path.ofText options.dotPath).shown] ++
    (exportTarget disk options.exportPath).toList

/-- Writes the files that differ from what was loaded. -/
def store (before after : Disk) : IO Unit := do
  for (place, entry) in after.entries do
    match entry with
    | .directory => pure ()
    | .file content =>
      if before.entryAt place ≠ some entry then
        IO.FS.writeBinFile (String.ofList place.shown) ⟨content.toBytes.toArray⟩

def put : Printed → IO Unit
  | .out text => do
    IO.print (String.ofList text)
    (← IO.getStdout).flush
  | .error text => IO.eprint (String.ofList text)

/-- Takes a step of a run on the files as they are now. -/
def advance (console : Console) (text : Text) (step : Console → Progress) : IO Progress := do
  let empty := { console.workspace.disk with entries := [] }
  let disk ← load [] (pathsAhead console text) empty
  let progress := step { console with workspace := { console.workspace with disk } }
  store disk progress.console.workspace.disk
  for printed in progress.console.printed.reverse do
    put printed
  return progress.withoutOutput

def explain : Breakdown → String
  | .undecodable => "A file is no text in UTF-8."
  | .nulInPath => "A path holds a null character."
  | .unknownUser => "The home directory of a path is not known."
  | .importsTooDeep => "Imports are nested too deep."

def finish : Ending → IO UInt32
  | .exit code => return code.toUInt32
  | .broke why => do
    IO.eprintln (explain why)
    return 1
  | .unencodable => return 1

/-- Feeds typed lines as long as the run asks for them. -/
partial def converse : Progress → IO UInt32
  | .ended (ending, _) => finish ending
  | .waiting console => do
    let line ← (← IO.getStdin).getLine
    if line.isEmpty then
      converse (← advance console [] fun loaded => .ended loaded.endLines)
    else
      let typed := line.toList.filter (· ≠ '\n')
      converse (← advance console typed fun loaded => loaded.feed typed)

def dismissed : Dismissal → Printed
  | .help => .out Options.help
  | .misuse => .error Options.help
  | .noLevel => .error "There is no level to log at.\n"

def placeOf (path : String) : Place :=
  (Path.ofText path.toList).resolve []

/-- The users and homes in a table of users, with one user a line and the home in its sixth field. -/
def homesListed (table : Text) : List (Text × Place) :=
  (pieces '\n' table).filterMap fun line =>
    match pieces ':' line with
    | user :: _ :: _ :: _ :: _ :: home :: _ => some (user, (Path.ofText home).resolve [])
    | _ => none

/-- The homes of all users, and first that of the user who runs the program. -/
def loadHomes : IO (List (Text × Place)) := do
  let others :=
    match ← (IO.FS.readFile "/etc/passwd").toBaseIO with
    | .ok table => homesListed table.toList
    | .error _ => []
  match ← IO.getEnv "HOME" with
  | some home => return ([], placeOf home) :: others
  | none => return others

end AutomataShell.Program

open AutomataShell in
def main (arguments : List String) : IO UInt32 := do
  match Options.ofArguments (arguments.map String.toList) with
  | .error dismissal =>
    Program.put (Program.dismissed dismissal)
    return dismissal.exitCode.toUInt32
  | .ok options =>
    let directory := Program.placeOf (toString (← IO.currentDir))
    let console := Console.start options .utf8 ⟨[], directory, ← Program.loadHomes⟩
    Program.converse (← Program.advance console options.command Console.begin)
