import AutomataShell.Text.Printable

/-! Quoted text in messages: the text between quotes, with escapes for the quote in use, the
backslash, line ends, tabs and every character that is not printable. -/

set_option autoImplicit false

namespace AutomataShell.Text

/-- The lowest `width` hexadecimal digits of a number. -/
def hexDigits (width n : Nat) : Text :=
  match width with
  | 0 => []
  | width + 1 => hexDigits width (n / 16) ++ [Nat.digitChar (n % 16)]

/-- The shortest of the three numeric escapes that holds the code point. -/
def numericEscape (code : Nat) : Text :=
  if code < 0x100 then
    "\\x" ++ hexDigits 2 code
  else if code < 0x10000 then
    "\\u" ++ hexDigits 4 code
  else
    "\\U" ++ hexDigits 8 code

def escape (quote c : Char) : Text :=
  if c = quote ∨ c = '\\' then
    ['\\', c]
  else if c = '\n' then
    "\\n"
  else if c = '\r' then
    "\\r"
  else if c = '\t' then
    "\\t"
  else if isPrintable c then
    [c]
  else
    numericEscape c.toNat

/-- Single quotes, unless the text holds one and no double quote. -/
def quoteFor (text : Text) : Char :=
  if text.contains '\x27' && !text.contains '\x22' then '\x22' else '\x27'

def quoted (text : Text) : Text :=
  quoteFor text :: text.flatMap (escape (quoteFor text)) ++ [quoteFor text]

end AutomataShell.Text
