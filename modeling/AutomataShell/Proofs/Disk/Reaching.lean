import AutomataShell.Disk.Basic
import AutomataShell.Proofs.Text.Pieces

/-! Places that paths lead to: the directories on the way to such a place exist, so the place is found
again when it is named from the root. -/

set_option autoImplicit false

namespace AutomataShell

open Text

/-- A name that a directory can hold. -/
structure IsName (name : Text) : Prop where
  step : Path.isStep name = true
  forward : name ≠ ['.', '.']
  unslashed : '/' ∉ name
  visible : '\x00' ∉ name
  short : Disk.utf8Length name ≤ Disk.nameLimit

namespace Disk

/-- The working directory exists, and it and the home directories have names throughout. -/
structure IsProper (disk : Disk) : Prop where
  homes : ∀ entry ∈ disk.homes, ∀ name ∈ entry.2, IsName name
  directory : ∀ name ∈ disk.directory, IsName name
  stands : ∀ place, place <+: disk.directory → disk.entryAt place = some .directory

/-- A place with names throughout, below directories. -/
structure Reaches (disk : Disk) (place : Place) : Prop where
  names : ∀ name ∈ place, IsName name
  above : ∀ higher, higher <+: place → higher ≠ place → disk.entryAt higher = some .directory

variable {disk : Disk} {here there : Place}

theorem reaches_nil (disk : Disk) : disk.Reaches [] where
  names name member := by cases member
  above higher isAbove other := absurd (List.prefix_nil.1 isAbove) other

theorem IsProper.reaches_directory (proper : disk.IsProper) : disk.Reaches disk.directory where
  names := proper.directory
  above higher isAbove _ := proper.stands higher isAbove

theorem Reaches.dropLast (reaches : disk.Reaches here) : disk.Reaches here.dropLast where
  names name member := reaches.names name (List.dropLast_subset here member)
  above higher isAbove other := by
    apply reaches.above higher (isAbove.trans (List.dropLast_prefix here))
    -- Only the root is not above itself without its last name.
    rintro rfl
    have shorter := isAbove.length_le
    rw [List.length_dropLast] at shorter
    have empty : higher = [] := List.length_eq_zero_iff.1 (by omega)
    exact other (by rw [empty]; rfl)

theorem Reaches.append (reaches : disk.Reaches here) (isDirectory : disk.entryAt here = some .directory)
    {name : Text} (isName : IsName name) : disk.Reaches (here ++ [name]) where
  names other member := by
    rcases List.mem_append.1 member with inHere | isLast
    · exact reaches.names other inHere
    · exact List.mem_singleton.1 isLast ▸ isName
  above higher isAbove other := by
    rcases List.prefix_concat_iff.1 isAbove with same | inHere
    · exact absurd same other
    · by_cases same : higher = here
      · rw [same, isDirectory]
      · exact reaches.above higher inHere same

/-- Following components leads to where they lead by themselves. -/
theorem follow_eq_foldl {names : List Text} (found : disk.follow here names = .ok there) :
    there = (names.filter Path.isStep).foldl Path.descend here := by
  induction names generalizing here with
  | nil => exact (Except.ok.inj found).symm
  | cons name rest ih =>
    unfold follow at found
    split at found
    · cases found
    · cases found
    · cases step : Path.isStep name with
      | false =>
        simp only [step, Bool.not_false, if_true] at found
        rw [List.filter_cons_of_neg (by simp [step])]
        exact ih found
      | true =>
        simp only [step, Bool.not_true, Bool.false_eq_true, if_false] at found
        rw [List.filter_cons_of_pos step, List.foldl_cons, Path.descend]
        split at found
        · rename_i back
          rw [if_pos back]
          exact ih found
        · rename_i forward
          split at found
          · cases found
          · rw [if_neg forward]
            exact ih found

theorem reaches_of_follow {names : List Text} (reaches : disk.Reaches here)
    (plain : ∀ name ∈ names, '/' ∉ name ∧ '\x00' ∉ name)
    (found : disk.follow here names = .ok there) : disk.Reaches there := by
  induction names generalizing here with
  | nil => exact Except.ok.inj found ▸ reaches
  | cons name rest ih =>
    have plainRest := fun other member => plain other (List.mem_cons_of_mem name member)
    obtain ⟨unslashed, visible⟩ := plain name List.mem_cons_self
    unfold follow at found
    split at found
    · cases found
    · cases found
    · rename_i isDirectory
      cases step : Path.isStep name with
      | false =>
        simp only [step, Bool.not_false, if_true] at found
        exact ih reaches plainRest found
      | true =>
        simp only [step, Bool.not_true, Bool.false_eq_true, if_false] at found
        split at found
        · -- Going up from a place leaves it below directories.
          exact ih reaches.dropLast plainRest found
        · rename_i forward
          split at found
          · cases found
          · rename_i short
            have isName : IsName name := ⟨step, forward, unslashed, visible, Nat.not_lt.1 short⟩
            exact ih (reaches.append isDirectory isName) plainRest found

/-- From a directory down, a place is found by its names. -/
theorem follow_of_reaches {names : List Text} (reaches : disk.Reaches (here ++ names)) :
    disk.follow here names = .ok (here ++ names) := by
  induction names generalizing here with
  | nil => rw [List.append_nil, follow]
  | cons name rest ih =>
    have isName := reaches.names name (by simp)
    have isDirectory : disk.entryAt here = some .directory :=
      reaches.above here (List.prefix_append here (name :: rest)) (by simp)
    have below : disk.Reaches ((here ++ [name]) ++ rest) := by simpa using reaches
    unfold follow
    rw [isDirectory]
    simp only
    rw [if_neg (by simp [isName.step]), if_neg isName.forward, if_neg (by simp [isName.short]),
      ih below, List.append_assoc, List.singleton_append]

end Disk

end AutomataShell
