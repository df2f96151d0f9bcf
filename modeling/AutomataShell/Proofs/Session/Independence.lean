import AutomataShell.Proofs.Session.Following

/-! Scripts that start afresh. What a session did before does not show in their results, in the files
that they leave, or in the session after them. -/

set_option autoImplicit false

namespace AutomataShell.Workspace

open Text

variable {workspace : Workspace} {script : Text}

/-- The script is run as in a session of its own. -/
theorem executeScript_agrees_fresh (isOpen : workspace.session.closed = false)
    (idle : workspace.session.importing = []) (afresh : StartsAfresh script) (other : Workspace)
    (unused : other.session = .fresh) (sameDisk : other.disk = workspace.disk) :
    Agree True Sound (workspace.executeScript script) (other.executeScript script) := by
  apply executeScript_agrees
  · rw [unused]
    exact ⟨isOpen, idle⟩
  · rw [sameDisk]
    exact Disk.resembles_refl _
  · intro continued
    exact absurd afresh continued

/-- In an open session without imports in progress, such a script has the result that a check of it
has, and leaves the same files. If it succeeds, it leaves the machine, the record and the session as
open as it does in a fresh session. -/
theorem executeScript_of_startsAfresh (isOpen : workspace.session.closed = false)
    (idle : workspace.session.importing = []) (afresh : StartsAfresh script) :
    (workspace.executeScript script).1 = (workspace.check script).1 ∧
      (workspace.executeScript script).2.disk = (workspace.check script).2.disk ∧
      ∀ result, (workspace.executeScript script).1 = .ok result → result.succeeded = true →
        let left := (workspace.executeScript script).2.session
        let own := ((start workspace.disk).executeScript script).2.session
        left.machine = own.machine ∧ left.record = own.record ∧ left.closed = own.closed := by
  obtain ⟨same, disks, _⟩ :=
    executeScript_agrees_fresh isOpen idle afresh { workspace with session := .fresh } rfl rfl
      (Or.inl trivial)
  refine ⟨same, disks.eq_of_exact trivial, fun result succeeded sound => ?_⟩
  have answered : Succeeds Sound (workspace.executeScript script) :=
    ⟨result, succeeded, Option.isNone_iff_eq_none.1 sound⟩
  obtain ⟨_, _, follows⟩ :=
    executeScript_agrees_fresh isOpen idle afresh (start workspace.disk) rfl rfl (Or.inl trivial)
  have following := follows answered
  rcases following.fits with ⟨machine, record⟩ | ⟨inexact, _⟩
  · exact ⟨machine, record, following.aligned.closed⟩
  · exact absurd trivial inexact

/-- A session with a machine of its own, beside a file with another one. -/
def besideSaved : Workspace :=
  ((start ⟨[(["saved"], .file (.readable "create dfa b; add y"))], [], []⟩).executeScript
    "create nfa a; add x").2

/-- The machine of the file takes the place of the other one, and is exported. -/
theorem executeScript_import_besideSaved :
    (besideSaved.executeScript "import saved; export copy").1 =
        (besideSaved.check "import saved; export copy").1 ∧
      (besideSaved.executeScript "import saved; export copy").2.session.machine =
        ((start besideSaved.disk).executeScript "import saved; export copy").2.session.machine := by
  have isOpen : besideSaved.session.closed = false := by decide +kernel
  have idle : besideSaved.session.importing = [] := by decide +kernel
  have afresh : StartsAfresh "import saved; export copy" := by
    right
    intro expanded same
    have known : Script.preprocess "import saved; export copy" =
        .ok "import saved;\nexport copy;\n" := by
      decide +kernel
    rw [known] at same
    cases same
    exact ⟨"import saved", ["export copy"], by decide +kernel, by decide +kernel⟩
  have answer : (besideSaved.executeScript "import saved; export copy").1 =
      .ok ⟨[.imported, .exported], none⟩ := by
    decide +kernel
  obtain ⟨same, _, sessions⟩ := executeScript_of_startsAfresh isOpen idle afresh
  exact ⟨same, (sessions _ answer rfl).1⟩

end AutomataShell.Workspace
