import AutomataShell.Text.Blank
import AutomataShell.Text.Quoted

/-! Labels: what a caller writes where the name of a node or a symbol belongs. Only a label of one
printable character that is neither blank nor reserved is legal. -/

set_option autoImplicit false

namespace AutomataShell

/-- A label as given. It may be missing and may have any length. -/
abbrev Label := Option Text

/-- Why a label names nothing. -/
inductive LabelFault where
  | empty
  | long
  | nul
  | wildcard
  | unprintable
  deriving DecidableEq, Repr

def LabelFault.message (what : Text) : LabelFault → Text
  | .empty => what ++ " cannot be empty"
  | .long => what ++ " must be one character long"
  | .nul => what ++ " cannot be the null character"
  | .wildcard => what ++ " cannot be the '?' character"
  | .unprintable => what ++ " must be a printable character"

namespace Label

def ofChar (c : Char) : Label :=
  some [c]

def shown (label : Label) : Text :=
  label.getD "None"

def quoted : Label → Text
  | none => "None"
  | some text => Text.quoted text

/-- The character that a legal label consists of. -/
def check : Label → Except LabelFault Char
  | none | some [] => .error .empty
  | some [c] =>
    if c = '\x00' then
      .error .nul
    else if c = '?' then
      .error .wildcard
    else if !Text.isPrintable c || Text.isBlank c then
      .error .unprintable
    else
      .ok c
  | some (_ :: _ :: _) => .error .long

/-- The characters that may name a node or a symbol. -/
def IsLegal (c : Char) : Prop :=
  c ≠ '\x00' ∧ c ≠ '?' ∧ Text.isPrintable c = true ∧ Text.isBlank c = false

instance (c : Char) : Decidable (IsLegal c) :=
  inferInstanceAs (Decidable (_ ∧ _ ∧ _ ∧ _))

theorem check_eq_ok_iff (label : Label) (c : Char) :
    label.check = .ok c ↔ label = ofChar c ∧ IsLegal c := by
  match label with
  | none => simp [check, ofChar]
  | some [] => simp [check, ofChar]
  | some (_ :: _ :: _) => simp [check, ofChar]
  | some [d] =>
    simp only [check, ofChar, IsLegal]
    split
    · rename_i isNul
      simp only [reduceCtorEq, Option.some.injEq, List.cons.injEq, and_true, false_iff, not_and]
      rintro rfl legal
      exact absurd isNul legal
    · split
      · rename_i isWildcard
        simp only [reduceCtorEq, Option.some.injEq, List.cons.injEq, and_true, false_iff, not_and]
        rintro rfl _ legal
        exact absurd isWildcard legal
      · split
        · rename_i fault
          simp only [reduceCtorEq, Option.some.injEq, List.cons.injEq, and_true, false_iff, not_and]
          rintro rfl _ _ printable blank
          simp [printable, blank] at fault
        · rename_i notNul notWildcard fine
          simp only [Except.ok.injEq, Option.some.injEq, List.cons.injEq, and_true]
          constructor
          · rintro rfl
            simpa [notNul, notWildcard] using fine
          · rintro ⟨rfl, _⟩
            rfl

end Label

end AutomataShell
