import AutomataShell.Disk.Path
import AutomataShell.Text.LineBreak

/-! A tree of files, with the directory in which relative paths start and the home directories.
Opening a path follows it name by name, so every directory on the way has to exist. -/

set_option autoImplicit false

namespace AutomataShell

open Text

/-- What a file holds: text, or bytes that are the UTF-8 form of no text. -/
inductive FileContent where
  | readable (text : Text)
  | undecodable (bytes : List UInt8)
  deriving DecidableEq, Repr

namespace FileContent

def ofBytes (bytes : List UInt8) : FileContent :=
  match String.fromUTF8? ⟨bytes.toArray⟩ with
  | some string => .readable string.toList
  | none => .undecodable bytes

def toBytes : FileContent → List UInt8
  | .readable text => (String.ofList text).toUTF8.data.toList
  | .undecodable bytes => bytes

end FileContent

inductive Entry where
  | directory
  | file (content : FileContent)
  deriving DecidableEq, Repr

/-- A home belongs to the user of its name; the one without a name is who runs the program. -/
structure Disk where
  entries : List (Place × Entry)
  directory : Place
  homes : List (Text × Place)
  deriving DecidableEq, Repr

/-- The entries with one more, which replaces what its place held. -/
def Entry.put (place : Place) (entry : Entry) : List (Place × Entry) → List (Place × Entry)
  | [] => [(place, entry)]
  | old :: rest =>
    if old.1 = place then (place, entry) :: rest else old :: put place entry rest

namespace Disk

variable (disk : Disk)

/-- What a place holds. The root is always a directory. -/
def entryAt (place : Place) : Option Entry :=
  if place = [] then some .directory else disk.entries.lookup place

def put (place : Place) (entry : Entry) : Disk :=
  { disk with entries := entry.put place disk.entries }

def isFile : Place × Entry → Bool
  | (_, .file _) => true
  | (_, .directory) => false

def fileCount : Nat :=
  disk.entries.countP isFile

def utf8Length : Text → Nat
  | [] => 0
  | c :: rest => c.utf8Size + utf8Length rest

/-- The most bytes in a name, and in a whole path. -/
def nameLimit : Nat := 255
def pathLimit : Nat := 4095

/-- Follows the components of a path. The last one need not exist. -/
def follow : Place → List Text → Except FileFault Place
  | here, [] => .ok here
  | here, name :: rest =>
    match disk.entryAt here with
    | none => .error .missing
    | some (.file _) => .error .notDirectory
    | some .directory =>
      if !Path.isStep name then
        follow here rest
      else if name = ['.', '.'] then
        -- The root is its own parent.
        follow here.dropLast rest
      else if nameLimit < utf8Length name then
        .error .nameTooLong
      else
        follow (here ++ [name]) rest

/-- The place that a path leads to. -/
def find (path : Text) : Except FileFault Place :=
  if path = [] then
    .error .missing
  else if pathLimit < utf8Length path then
    .error .nameTooLong
  else
    disk.follow (if path.head? = some '/' then [] else disk.directory) (pieces '/' path)

def read (path : Text) : Except FileFault FileContent := do
  let place ← disk.find path
  match disk.entryAt place with
  | none => .error .missing
  | some .directory => .error .isDirectory
  | some (.file content) => .ok content

def write (path : Text) (content : FileContent) : Except FileFault Disk := do
  let place ← disk.find path
  match disk.entryAt place with
  | some .directory => .error .isDirectory
  | _ => .ok (disk.put place (.file content))

/-- The text of a file, with its line breaks unified. -/
def readText (path : Text) : Except (Failure FileError) Text :=
  if path.contains '\x00' then
    .error (.broke .nulInPath)
  else
    match disk.read path with
    | .error fault => .error (.refused ⟨fault, path⟩)
    | .ok (.undecodable _) => .error (.broke .undecodable)
    | .ok (.readable text) => .ok (unifyBreaks text)

/-- Makes a file, or replaces what it holds. -/
def writeText (path text : Text) : Except (Failure FileError) Disk :=
  if path.contains '\x00' then
    .error (.broke .nulInPath)
  else
    match disk.write path (.readable text) with
    | .error fault => .error (.refused ⟨fault, path⟩)
    | .ok written => .ok written

end Disk

theorem lookup_entry (place : Place) (old : Place × Entry) (rest : List (Place × Entry)) :
    (old :: rest).lookup place = if place = old.1 then some old.2 else rest.lookup place := by
  obtain ⟨there, held⟩ := old
  by_cases same : place = there
  · simp [same]
  · rw [if_neg same, List.lookup_cons, beq_eq_false_iff_ne.2 same]

theorem lookup_put (place other : Place) (entry : Entry) (entries : List (Place × Entry)) :
    (entry.put place entries).lookup other =
      if other = place then some entry else entries.lookup other := by
  induction entries with
  | nil => simp only [Entry.put, lookup_entry]
  | cons old rest ih =>
    simp only [Entry.put]
    by_cases replaced : old.1 = place
    · rw [if_pos replaced, lookup_entry, lookup_entry, replaced]
      split <;> rfl
    · rw [if_neg replaced, lookup_entry, lookup_entry, ih]
      by_cases same : other = place
      · simp only [same, if_neg (Ne.symm replaced), if_true]
      · simp only [if_neg same]

namespace Disk

/-- A place that was written to holds what was written, and every other place what it held. -/
theorem entryAt_put (disk : Disk) (place other : Place) (entry : Entry) (below : place ≠ []) :
    (disk.put place entry).entryAt other =
      if other = place then some entry else disk.entryAt other := by
  by_cases top : other = []
  · subst top
    simp [entryAt, Ne.symm below]
  · simp [entryAt, put, top, lookup_put]

end Disk

end AutomataShell
