import AutomataShell.Text.LetterCase

/-! The directives that steer the expansion of a script. -/

set_option autoImplicit false

namespace AutomataShell.Script

open Text

inductive Directive where
  | define
  | endBlock
  | ifDefined
  | ifUndefined
  | rename
  deriving DecidableEq, Repr

namespace Directive

/-- All directives in the order of their keywords. -/
def all : List Directive :=
  [.define, .endBlock, .ifDefined, .ifUndefined, .rename]

def keyword : Directive → Text
  | .define => "#define"
  | .endBlock => "#endif"
  | .ifDefined => "#ifdef"
  | .ifUndefined => "#ifndef"
  | .rename => "#namedef"

/-- The directive of a keyword in lower case. -/
def ofKeyword (word : Text) : Option Directive :=
  all.find? fun directive => directive.keyword == word

def usage : Directive → Text
  | .define => "#define [Symbol];"
  | .endBlock => "#endif;"
  | .ifDefined => "#ifdef [Symbol];"
  | .ifUndefined => "#ifndef [Symbol];"
  | .rename => "#namedef [old string] [replacement string];"

def purpose : Directive → Text
  | .define =>
    "Defines a new symbol that is used to form conditional blocks. See #ifdef and #ifndef."
  | .endBlock => "Ends the conditional block."
  | .ifDefined =>
    "Starts a conditional block. If [Symbol] has NOT been defined, the commands in the block are ignored."
  | .ifUndefined =>
    "Starts a conditional block. If [Symbol] HAS been defined, the commands in the block are ignored."
  | .rename => "Replaces all occurrences of [old string] with [replacement string]."

def help (directive : Directive) : Text :=
  directive.usage ++ "\n\t" ++ directive.purpose

/-- The help on the directive of a keyword in any case. -/
def describe (word : Text) : Option Text :=
  (ofKeyword (lower word)).map help

end Directive

end AutomataShell.Script
