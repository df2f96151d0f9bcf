import AutomataShell.CommandLine.Options
import AutomataShell.Text.Digit
import AutomataShell.Text.LetterCase

/-! Reading the arguments of a command line. Each argument is taken apart on its own first, where an
ambiguous abbreviation is wrong at any place. Then all are carried out from left to right: a request
for help counts unless something before it is misused, and strays count only at the end. -/

set_option autoImplicit false

namespace AutomataShell

/-- Why a command line leads to no run. -/
inductive Dismissal where
  | help
  | misuse
  | noLevel
  deriving DecidableEq, Repr

def Dismissal.exitCode : Dismissal → Nat
  | .help => 0
  | .misuse => 2
  | .noLevel => 1

/-- What an argument says besides turning switches on. -/
inductive Remainder where
  | nothing
  | assign (setting : Setting) (value : Text)
  | await (setting : Setting)
  deriving DecidableEq, Repr

/-- An argument taken apart. One argument may turn on several switches. -/
inductive Argument where
  | operand (text : Text)
  | separator
  | options (switches : List Switch) (remainder : Remainder)
  | stray
  | misuse
  deriving DecidableEq, Repr

namespace Argument

/-- The letters behind a switch in the same argument. Each has to name a further switch, or a setting
that takes all the rest as its value. -/
def ofCluster (switches : List Switch) : Text → Argument
  | [] => .misuse
  | letter :: more =>
    match OptionName.ofSpelling ['-', letter], more with
    | none, _ => .misuse
    | some (.setting setting), [] => .options switches (.await setting)
    | some (.setting setting), value => .options switches (.assign setting value)
    | some (.switch switch), [] => .options (switches ++ [switch]) .nothing
    | some (.switch switch), more => ofCluster (switches ++ [switch]) more

/-- An option that stands alone. -/
def ofOption : OptionName → Argument
  | .switch switch => .options [switch] .nothing
  | .setting setting => .options [] (.await setting)

/-- A short option with text attached to it: the value of a setting, or letters behind a switch. -/
def ofAttached (text : Text) : OptionName → Argument
  | .switch switch => ofCluster [switch] text
  | .setting setting => .options [] (.assign setting text)

/-- A long option with a value behind an equals sign, which a switch does not take. -/
def ofAssignment (value : Text) : OptionName → Argument
  | .switch _ => .misuse
  | .setting setting => .options [] (.assign setting value)

/-- An argument that names no option. Negative numbers and texts with spaces are operands. -/
def ofUnknown (text : Text) : Argument :=
  if Text.isNegativeNumber text || text.contains ' ' then .operand text else .stray

/-- The text before the first equals sign, and the text after it if there is one. -/
def splitAssignment (text : Text) : Text × Option Text :=
  match text.dropWhile (· ≠ '=') with
  | [] => (text, none)
  | _ :: value => (text.takeWhile (· ≠ '='), some value)

/-- An abbreviated long option, with a value if an equals sign follows. Only one option may fit. -/
def ofLong (text : Text) : Option Argument :=
  let (name, value) := splitAssignment text
  match OptionName.abbreviatedBy name, value with
  | [], _ => some (ofUnknown text)
  | [option], none => some (ofOption option)
  | [option], some value => some (ofAssignment value option)
  | _ :: _ :: _, _ => none

/-- A short option with more behind it. -/
def ofShort (text : Text) : Argument :=
  match OptionName.ofSpelling (text.take 2) with
  | none => ofUnknown text
  | some option => ofAttached (text.drop 2) option

def isLong (text : Text) : Bool :=
  ['-', '-'].isPrefixOf text

/-- An argument that is no full spelling of an option, unless it is ambiguous. -/
def ofInexact (text : Text) : Option Argument :=
  if isLong text then ofLong text else some (ofShort text)

/-- Takes an argument apart, unless it is ambiguous. -/
def ofText (text : Text) : Option Argument :=
  match text with
  | '-' :: _ :: _ =>
    match OptionName.ofSpelling text, splitAssignment text with
    | some option, _ => some (ofOption option)
    | none, (_, none) => ofInexact text
    | none, (name, some value) =>
      -- A full spelling before the equals sign goes before any abbreviation.
      match OptionName.ofSpelling name with
      | some option => some (if isLong name then ofAssignment value option else ofAttached value option)
      | none => ofInexact text
  | _ => some (.operand text)

/-- Takes all arguments apart. Behind two dashes every argument is an operand. -/
def ofTexts : List Text → Option (List Argument)
  | [] => some []
  | text :: rest =>
    if text = ['-', '-'] then
      some (.separator :: rest.map .operand)
    else
      match ofText text, ofTexts rest with
      | some argument, some more => some (argument :: more)
      | _, _ => none

end Argument

/-- Whether the operands are still to come, are being read, or have been read. -/
inductive Operands where
  | ahead
  | current
  | past
  deriving DecidableEq, Repr

/-- Options under reading. Scripts are collected in order. The level may have been taken away. -/
structure Reading where
  options : Options
  operands : Operands
  stray : Bool
  levelless : Bool

namespace Reading

def start : Reading :=
  ⟨.default, .ahead, false, false⟩

variable (reading : Reading)

/-- Takes operands; only those of the first unbroken group are scripts. -/
def take (scripts : List Text) : Reading :=
  match reading.operands with
  | .past => { reading with stray := true }
  | _ =>
    { reading with
      options := { reading.options with scripts := reading.options.scripts ++ scripts }
      operands := .current }

/-- Leaves the group of operands that was being read. -/
def leave : Reading :=
  match reading.operands with
  | .current => { reading with operands := .past }
  | _ => reading

def change (options : Options) : Reading :=
  { reading.leave with options }

def turnOn : Switch → Except Dismissal Reading
  | .help => .error .help
  | .check => .ok (reading.change { reading.options with check := true })
  | .quiet => .ok (reading.change { reading.options with quiet := true })

def turnOnAll (switches : List Switch) : Except Dismissal Reading :=
  switches.foldlM turnOn reading

/-- Two dashes as a value stand for no value. -/
def valueOf (text : Text) : Option Text :=
  if text = ['-', '-'] then none else some text

/-- Makes a setting. A level has to be one of the known names, in any case. -/
def assign (setting : Setting) (text : Text) : Except Dismissal Reading :=
  match setting, valueOf text with
  | .command, value =>
    .ok (reading.change { reading.options with command := value.getD [] })
  | .exportPath, value =>
    .ok (reading.change { reading.options with exportPath := value.getD [] })
  | .dotPath, value =>
    .ok (reading.change { reading.options with dotPath := value.getD [] })
  | .logLevel, none => .ok { reading.leave with levelless := true }
  | .logLevel, some name =>
    match Level.ofName (Text.upper name) with
    | none => .error .misuse
    | some logLevel =>
      .ok { reading.change { reading.options with logLevel } with levelless := false }

/-- Carries out arguments from left to right. A setting without a value takes the operand after it,
and no part of an argument counts before the whole argument is complete. -/
def run : List Argument → Reading → Except Dismissal Reading
  | [], reading => .ok reading
  | .operand text :: rest, reading => run rest (reading.take [text])
  | .separator :: rest, reading => run rest (reading.take [])
  | .options switches .nothing :: rest, reading => do
    run rest (← reading.turnOnAll switches)
  | .options switches (.assign setting value) :: rest, reading => do
    run rest (← (← reading.turnOnAll switches).assign setting value)
  | .options switches (.await setting) :: .operand value :: rest, reading => do
    run rest (← (← reading.turnOnAll switches).assign setting value)
  | .options _ (.await _) :: _, _ => .error .misuse
  | .stray :: rest, reading => run rest { reading.leave with stray := true }
  | .misuse :: _, _ => .error .misuse

/-- The options that were read, if nothing is left to complain of. -/
def result : Except Dismissal Options :=
  if reading.stray then
    .error .misuse
  else if reading.levelless then
    .error .noLevel
  else
    .ok reading.options

end Reading

/-- The options that a command line asks for. -/
def Options.ofArguments (texts : List Text) : Except Dismissal Options :=
  match Argument.ofTexts texts with
  | none => .error .misuse
  | some arguments =>
    match Reading.start.run arguments with
    | .error dismissal => .error dismissal
    | .ok reading => reading.result

end AutomataShell
