import AutomataShell.Command.Malformed
import AutomataShell.Command.Verb
import AutomataShell.Machine.Basic
import AutomataShell.Text.Blank

/-! The arguments of each verb, read into a command. Names and letters are taken in lower case, and
blanks inside them do not count. -/

set_option autoImplicit false

namespace AutomataShell

open Text

/-- A command with its arguments. The arrows of a connection are letters with their targets. -/
inductive Command where
  | create (kind : Kind) (symbols : List Char)
  | add (names : List Char)
  | connect (source : Char) (arrows : List (Char × Char))
  | accept (names : List Char)
  | execute (word : Text)
  | displayAll
  | display (names : List Char)
  | help (topic : Text)
  | exportFile (path : Text)
  | importFile (path : Text)
  | exit
  deriving DecidableEq, Repr

namespace Command

def readName (piece : Text) : Except Malformed Char :=
  match squeeze piece with
  | [] => .error (.badName [] .empty)
  | [c] =>
    if c = '\x00' then
      .error (.badName [c] .nul)
    else if c = '?' then
      .error (.badName [c] .wildcard)
    else
      .ok c
  | name => .error (.badName name .long)

/-- Names between commas. -/
def readNames (arguments : Text) : Except Malformed (List Char) :=
  if arguments.all isBlank then
    .error .tooFewParameters
  else
    (pieces ',' (lower arguments)).mapM readName

/-- A letter and a target around a colon. -/
def readArrow (piece : Text) : Except Malformed (Char × Char) :=
  match squeeze piece with
  | [letter, ':', target] => .ok (letter, target)
  | argument => .error (.badArrow argument)

def readArrows (arguments : Text) : Except Malformed (List (Char × Char)) :=
  (pieces ',' (lower arguments)).mapM readArrow

/-- What follows a delimiter at the start of a text: an arrow, with or without blanks around it, or
the word `to` in any case between blanks. -/
def afterDelimiter (text : Text) : Option Text :=
  match text.dropWhile isBlank with
  | '-' :: '>' :: rest => some (rest.dropWhile isBlank)
  | t :: o :: blank :: rest =>
    if text.head?.any isBlank && (t == 't' || t == 'T') && (o == 'o' || o == 'O') && isBlank blank
    then some (rest.dropWhile isBlank)
    else none
  | _ => none

/-- The texts before and after the first delimiter. -/
def splitAtDelimiter : Text → Option (Text × Text)
  | [] => none
  | c :: rest =>
    match afterDelimiter (c :: rest) with
    | some after => some ([], after)
    | none => (splitAtDelimiter rest).map fun parts => (c :: parts.1, parts.2)

def readCreate (arguments : Text) : Except Malformed Command :=
  match headWord arguments with
  | (_, []) => .error .kindAndAlphabet
  | (kind, letters) =>
    match Kind.ofName (lower kind) with
    | none => .error (.unknownKind kind)
    | some kind => (readNames letters).map (.create kind)

def readConnect (arguments : Text) : Except Malformed Command :=
  match splitAtDelimiter arguments with
  | none => .error .noDelimiter
  | some (before, after) =>
    match readNames before with
    | .error why => .error why
    | .ok [source] => (readArrows after).map (.connect source)
    | .ok _ => .error .severalSources

def readDisplay (arguments : Text) : Except Malformed Command :=
  if lower (trim arguments) = "all" then
    .ok .displayAll
  else
    (readNames arguments).map .display

def readPath (arguments : Text) : Except Malformed Text :=
  match trim arguments with
  | [] => .error .noFileName
  | path => .ok path

def read : Verb → Text → Except Malformed Command
  | .create, arguments => readCreate arguments
  | .add, arguments => (readNames arguments).map .add
  | .connect, arguments => readConnect arguments
  | .accept, arguments => (readNames arguments).map .accept
  | .execute, arguments => .ok (.execute (squeeze (lower arguments)))
  | .display, arguments => readDisplay arguments
  | .help, arguments => .ok (.help (lower (trim arguments)))
  | .exportFile, arguments => (readPath arguments).map .exportFile
  | .importFile, arguments => (readPath arguments).map .importFile
  | .exit, _ => .ok .exit

end Command

end AutomataShell
