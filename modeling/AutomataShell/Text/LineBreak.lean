import AutomataShell.Text.Basic

/-! Line breaks of a stored text. -/

set_option autoImplicit false

namespace AutomataShell.Text

/-- Every line break as a line feed. A carriage return is a line break, together with a line feed
right after it. -/
def unifyBreaks : Text → Text
  | [] => []
  | '\r' :: '\n' :: rest => '\n' :: unifyBreaks rest
  | c :: rest => (if c = '\r' then '\n' else c) :: unifyBreaks rest

/-- A text without carriage returns stays as it is. -/
theorem unifyBreaks_eq_self {text : Text} (plain : '\r' ∉ text) : unifyBreaks text = text := by
  fun_induction unifyBreaks text with
  | case1 => rfl
  | case2 rest _ => simp at plain
  | case3 c rest _ ih =>
    simp only [List.mem_cons, not_or] at plain
    rw [ih plain.2, if_neg (fun same => plain.1 same.symm)]

end AutomataShell.Text
