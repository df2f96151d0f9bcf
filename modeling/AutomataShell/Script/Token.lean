import AutomataShell.Text.Blank

/-! Tokens of a command line: runs of characters that are not blank, in which the comma, the colon
and the arrow always stand alone. -/

set_option autoImplicit false

namespace AutomataShell.Script

open Text

/-- Puts a space on either side of each comma, colon and arrow, read from the left. -/
def spaced : Text → Text
  | [] => []
  | '-' :: '>' :: rest => ' ' :: '-' :: '>' :: ' ' :: spaced rest
  | c :: rest => if c = ',' ∨ c = ':' then ' ' :: c :: ' ' :: spaced rest else c :: spaced rest

def tokens (line : Text) : List Text :=
  words (spaced line)

/-- Spacing adds blanks only. -/
theorem squeeze_spaced (line : Text) : squeeze (spaced line) = squeeze line := by
  fun_induction spaced line with
  | case1 => rfl
  | case2 rest ih => simpa [squeeze, isBlank, inRanges, blankRanges, inRange] using ih
  | case3 c rest _ punctuation ih =>
    rcases punctuation with rfl | rfl <;>
      simpa [squeeze, isBlank, inRanges, blankRanges, inRange] using ih
  | case4 c rest _ _ ih =>
    by_cases blank : isBlank c <;> simpa [squeeze, blank] using ih

/-- The tokens hold every character of the line that is not blank, in order. -/
theorem flatten_tokens (line : Text) : (tokens line).flatten = squeeze line := by
  rw [tokens, flatten_words, squeeze_spaced]

end AutomataShell.Script
