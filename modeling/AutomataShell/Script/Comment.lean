import AutomataShell.Text.Basic

/-! Comments: from an opening mark to the first closing mark after it. An opening mark that no
closing mark follows is ordinary text. -/

set_option autoImplicit false

namespace AutomataShell.Script

/-- What follows the first closing mark. -/
def afterComment : Text → Option Text
  | [] => none
  | '*' :: '/' :: rest => some rest
  | _ :: rest => afterComment rest

theorem length_lt_of_afterComment {text rest : Text} (closed : afterComment text = some rest) :
    rest.length < text.length := by
  fun_induction afterComment text with
  | case1 => simp at closed
  | case2 after =>
    cases closed
    simp only [List.length_cons]
    omega
  | case3 c text _ ih =>
    have := ih closed
    simp only [List.length_cons]
    omega

def removeComments : Text → Text
  | [] => []
  | '/' :: '*' :: rest =>
    match _found : afterComment rest with
    | some after => removeComments after
    | none => '/' :: '*' :: rest
  | c :: rest => c :: removeComments rest
termination_by text => text.length
decreasing_by
  · have := length_lt_of_afterComment _found
    simp only [List.length_cons]
    omega
  · simp

end AutomataShell.Script
