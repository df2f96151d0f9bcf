import AutomataShell.Machine.Construction

/-! Traversals of the empty moves of a machine, with a stack of names whose moves are still to be
followed. -/

set_option autoImplicit false

namespace AutomataShell

/-- A traversal under way, with the names that it has found. -/
structure Traversal where
  found : List Label
  stack : List Label

namespace Traversal

/-- A traversal from some names, each of them once. -/
def start (names : List Label) : Traversal :=
  ⟨names.eraseDups, names.eraseDups⟩

/-- A node is put on the stack when it is found for the first time. -/
def enter (traversal : Traversal) (node : Char) : Traversal :=
  if traversal.found.contains (Label.ofChar node) then
    traversal
  else
    ⟨Label.ofChar node :: traversal.found, Label.ofChar node :: traversal.stack⟩

def enterAll (traversal : Traversal) (nodes : List Char) : Traversal :=
  nodes.foldl enter traversal

/-- How many steps a traversal has before it at most. -/
def remaining (machine : Machine) (traversal : Traversal) : Nat :=
  (machine.edges.filter fun edge => !traversal.found.contains (Label.ofChar edge.target)).length +
    traversal.stack.length

/-- What is put on the stack is no longer to be found. -/
theorem remaining_enter_le {machine : Machine} (traversal : Traversal) {edge : Edge}
    (member : edge ∈ machine.edges) :
    (traversal.enter edge.target).remaining machine ≤ traversal.remaining machine := by
  unfold enter
  split
  · exact Nat.le_refl _
  · rename_i fresh
    have fewer : (machine.edges.filter fun other =>
        !(Label.ofChar edge.target :: traversal.found).contains (Label.ofChar other.target)).length <
          (machine.edges.filter fun other =>
            !traversal.found.contains (Label.ofChar other.target)).length := by
      have within : (machine.edges.filter fun other =>
          !(Label.ofChar edge.target :: traversal.found).contains (Label.ofChar other.target)) =
            (machine.edges.filter fun other =>
              !traversal.found.contains (Label.ofChar other.target)).filter
                fun other => Label.ofChar other.target ≠ Label.ofChar edge.target := by
        rw [List.filter_filter]
        exact List.filter_congr fun other _ => by simp
      rw [within]
      refine List.length_filter_lt_length_iff_exists.2 ⟨edge, ?_, by simp⟩
      exact List.mem_filter.2 ⟨member, by simpa using fresh⟩
    simp only [remaining, List.length_cons]
    omega

theorem remaining_enterAll_le {machine : Machine} (traversal : Traversal) {nodes : List Char}
    (areTargets : ∀ node ∈ nodes, ∃ edge ∈ machine.edges, edge.target = node) :
    (traversal.enterAll nodes).remaining machine ≤ traversal.remaining machine := by
  induction nodes generalizing traversal with
  | nil => exact Nat.le_refl _
  | cons node rest ih =>
    obtain ⟨⟨edge, member, rfl⟩, restAreTargets⟩ := List.forall_mem_cons.1 areTargets
    exact Nat.le_trans (ih (traversal.enter edge.target) restAreTargets)
      (traversal.remaining_enter_le member)

theorem remaining_lt_of_follow (machine : Machine) (found rest : List Label) (name : Label)
    {nodes : List Char} (areTargets : ∀ node ∈ nodes, ∃ edge ∈ machine.edges, edge.target = node) :
    (enterAll ⟨found, rest⟩ nodes).remaining machine <
      remaining machine ⟨found, name :: rest⟩ := by
  have bounded := remaining_enterAll_le ⟨found, rest⟩ areTargets
  have shorter : remaining machine ⟨found, rest⟩ < remaining machine ⟨found, name :: rest⟩ := by
    simp [remaining]
  exact Nat.lt_of_le_of_lt bounded shorter

end Traversal

end AutomataShell
