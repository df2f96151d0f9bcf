import Mathlib.Data.List.Forall2
import AutomataShell.Disk.Basic

/-! Disks that hold the same files at the same places, or else files without text on the one where the
other has some. Paths lead to the same places on both. -/

set_option autoImplicit false

namespace AutomataShell

open Text

/-- The first entry may be blank where the second holds a text, unless they have to be the same. -/
inductive Entry.Resembles (exact : Prop) : Entry → Entry → Prop where
  | same (entry : Entry) : Resembles exact entry entry
  | blanked (loose : ¬ exact) (text : Text) :
      Resembles exact (.file (.readable [])) (.file (.readable text))

structure Disk.Resembles (exact : Prop) (first second : Disk) : Prop where
  directory : first.directory = second.directory
  homes : first.homes = second.homes
  entries : List.Forall₂ (fun left right => left.1 = right.1 ∧ left.2.Resembles exact right.2)
    first.entries second.entries

variable {exact : Prop}

theorem Entry.Resembles.eq_of_exact {first second : Entry} (resembles : first.Resembles exact second)
    (asked : exact) : first = second := by
  cases resembles with
  | same => rfl
  | blanked loose => exact absurd asked loose

namespace Disk

theorem resembles_refl (disk : Disk) : disk.Resembles exact disk where
  directory := rfl
  homes := rfl
  entries := List.forall₂_same.2 fun entry _ => ⟨rfl, .same entry.2⟩

namespace Resembles

variable {first second : Disk}

theorem eq_of_exact (resembles : first.Resembles exact second) (asked : exact) : first = second := by
  obtain ⟨directory, home, entries⟩ := resembles
  have sameEntries : first.entries = second.entries := by
    refine List.forall₂_eq_eq_eq ▸ entries.imp fun left right related => ?_
    exact Prod.ext related.1 (related.2.eq_of_exact asked)
  cases first
  cases second
  simp_all

theorem fileCount (resembles : first.Resembles exact second) :
    first.fileCount = second.fileCount := by
  obtain ⟨_, _, entries⟩ := resembles
  unfold Disk.fileCount
  generalize first.entries = left at entries ⊢
  generalize second.entries = right at entries ⊢
  induction entries with
  | nil => rfl
  | @cons old other _ _ related _ ih =>
    have sameKind : isFile old = isFile other := by
      obtain ⟨place, held⟩ := old
      obtain ⟨_, there⟩ := other
      cases related.2 with
      | same => cases held <;> rfl
      | blanked => rfl
    rw [List.countP_cons, List.countP_cons, ih, sameKind]

theorem entryAt (resembles : first.Resembles exact second) (place : Place) :
    Option.Rel (Entry.Resembles exact) (first.entryAt place) (second.entryAt place) := by
  obtain ⟨_, _, entries⟩ := resembles
  unfold Disk.entryAt
  split
  · exact .some (.same _)
  · generalize first.entries = left at entries ⊢
    generalize second.entries = right at entries ⊢
    induction entries with
    | nil => exact .none
    | cons related _ ih =>
      rw [lookup_entry, lookup_entry, ← related.1]
      split
      · exact .some related.2
      · exact ih

theorem follow (resembles : first.Resembles exact second) (here : Place) (names : List Text) :
    first.follow here names = second.follow here names := by
  induction names generalizing here with
  | nil => rfl
  | cons name rest ih =>
    have related := resembles.entryAt here
    unfold Disk.follow
    generalize first.entryAt here = held at related ⊢
    generalize second.entryAt here = other at related ⊢
    -- What is looked at on the way is only whether there is a directory.
    rcases related with ⟨_ | _⟩ | _
    · rename_i entry
      cases entry <;> simp only [ih]
    · rfl
    · rfl

theorem find (resembles : first.Resembles exact second) (path : Text) :
    first.find path = second.find path := by
  unfold Disk.find
  rw [resembles.directory]
  simp only [resembles.follow]

/-- A file is read alike from both, unless it is blank on the first. -/
theorem readText (resembles : first.Resembles exact second) (path : Text) :
    first.readText path = second.readText path ∨ ¬ exact ∧ first.readText path = .ok [] := by
  unfold Disk.readText Disk.read
  rw [resembles.find path]
  split
  · exact Or.inl rfl
  · cases second.find path with
    | error fault => exact Or.inl rfl
    | ok place =>
      have related := resembles.entryAt place
      simp only [bind, Except.bind]
      generalize first.entryAt place = held at related ⊢
      generalize second.entryAt place = other at related ⊢
      rcases related with ⟨_ | ⟨loose, text⟩⟩ | _
      · exact Or.inl rfl
      · exact Or.inr ⟨loose, rfl⟩
      · exact Or.inl rfl

theorem put (resembles : first.Resembles exact second) (place : Place) {entry other : Entry}
    (related : entry.Resembles exact other) :
    (first.put place entry).Resembles exact (second.put place other) where
  directory := resembles.directory
  homes := resembles.homes
  entries := by
    obtain ⟨_, _, entries⟩ := resembles
    simp only [Disk.put]
    generalize first.entries = left at entries ⊢
    generalize second.entries = right at entries ⊢
    induction entries with
    | nil => exact .cons ⟨rfl, related⟩ .nil
    | cons same rest ih =>
      simp only [Entry.put, ← same.1]
      split
      · exact .cons ⟨rfl, related⟩ rest
      · exact .cons same ih

/-- A text is written to both or to neither, and it may be blank on the first. -/
theorem writeText (resembles : first.Resembles exact second) (path : Text) {text other : Text}
    (related : text = other ∨ ¬ exact ∧ text = []) :
    (∃ failure, first.writeText path text = .error failure ∧
        second.writeText path other = .error failure) ∨
      ∃ left right, first.writeText path text = .ok left ∧
        second.writeText path other = .ok right ∧ left.Resembles exact right := by
  have contents : (Entry.file (.readable text)).Resembles exact (.file (.readable other)) := by
    rcases related with rfl | ⟨loose, rfl⟩
    · exact .same _
    · exact .blanked loose other
  unfold Disk.writeText Disk.write
  rw [resembles.find path]
  split
  · exact Or.inl ⟨_, rfl, rfl⟩
  · cases second.find path with
    | error fault => exact Or.inl ⟨_, rfl, rfl⟩
    | ok place =>
      have held := resembles.entryAt place
      have wrote := resembles.put place contents
      simp only [bind, Except.bind]
      generalize first.entryAt place = before at held ⊢
      generalize second.entryAt place = there at held ⊢
      rcases held with ⟨_ | ⟨loose, old⟩⟩ | _
      · rename_i entry
        cases entry with
        | directory => exact Or.inl ⟨_, rfl, rfl⟩
        | file => exact Or.inr ⟨_, _, rfl, rfl, wrote⟩
      · exact Or.inr ⟨_, _, rfl, rfl, wrote⟩
      · exact Or.inr ⟨_, _, rfl, rfl, wrote⟩

end Resembles

end Disk

end AutomataShell
