import AutomataShell.Text.Quoted

/-! Encodings, told by the characters that they can write. Text holds characters only; a stray byte of
an argument, which reaches a program as half of a surrogate pair, is to any encoding what a character
that it lacks is, so a console meets it as it meets such a character. -/

set_option autoImplicit false

namespace AutomataShell

open Text

/-- An encoding of the characters in some ranges of code points. -/
structure Encoding where
  ranges : List (Nat × Nat)
  deriving DecidableEq, Repr

namespace Encoding

def utf8 : Encoding :=
  ⟨[(0, 0x10FFFF)]⟩

variable (encoding : Encoding)

def holds (c : Char) : Bool :=
  inRanges encoding.ranges c.toNat

/-- Whether a text can be written as it is. -/
def carries (text : Text) : Bool :=
  text.all encoding.holds

/-- A text as it can be written, with a numeric escape for any other character. -/
def escaped (text : Text) : Text :=
  text.flatMap fun c => if encoding.holds c then [c] else numericEscape c.toNat

/-- Whether the encoding has every character. -/
def IsFull : Prop :=
  ∀ c, encoding.holds c = true

variable {encoding}

theorem IsFull.carries (full : encoding.IsFull) (text : Text) : encoding.carries text = true :=
  List.all_eq_true.2 fun c _ => full c

theorem IsFull.escaped (full : encoding.IsFull) (text : Text) : encoding.escaped text = text := by
  simp [Encoding.escaped, full _]

theorem isFull_utf8 : utf8.IsFull := by
  intro c
  have bound : c.toNat < 0x110000 := by
    rcases c.valid with low | ⟨_, high⟩
    · exact Nat.lt_trans low (by decide)
    · exact high
  simp only [holds, utf8, inRanges, inRange, List.any_cons, List.any_nil, Bool.or_false,
    Bool.and_eq_true, decide_eq_true_eq]
  omega

end Encoding

end AutomataShell
