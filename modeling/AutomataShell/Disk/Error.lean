import AutomataShell.Text.Quoted

/-! What goes wrong with files. Most of it is a refusal with a wording; a few causes break off the
whole run instead. -/

set_option autoImplicit false

namespace AutomataShell

open Text

/-- Why a path cannot be opened. -/
inductive FileFault where
  | missing
  | notDirectory
  | isDirectory
  | nameTooLong
  deriving DecidableEq, Repr

namespace FileFault

/-- The number under which the fault is known. -/
def number : FileFault → Nat
  | .missing => 2
  | .notDirectory => 20
  | .isDirectory => 21
  | .nameTooLong => 36

def message : FileFault → Text
  | .missing => "No such file or directory"
  | .notDirectory => "Not a directory"
  | .isDirectory => "Is a directory"
  | .nameTooLong => "File name too long"

end FileFault

/-- A path that could not be opened, as written. -/
structure FileError where
  fault : FileFault
  path : Text
  deriving DecidableEq, Repr

def FileError.message (error : FileError) : Text :=
  "[Errno " ++ ofNat error.fault.number ++ "] " ++ error.fault.message ++ ": " ++ quoted error.path

/-- What ends a run without an answer. -/
inductive Breakdown where
  | undecodable
  | nulInPath
  | unknownUser
  | importsTooDeep
  deriving DecidableEq, Repr

/-- An action that failed was refused for a reason, or broke down. -/
inductive Failure (Reason : Type) where
  | refused (why : Reason)
  | broke (why : Breakdown)
  deriving DecidableEq, Repr

def Failure.map {Reason Other : Type} (change : Reason → Other) : Failure Reason → Failure Other
  | .refused why => .refused (change why)
  | .broke why => .broke why

end AutomataShell
