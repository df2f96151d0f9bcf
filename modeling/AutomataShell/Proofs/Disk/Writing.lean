import AutomataShell.Proofs.Disk.Reaching

/-! A file that was written is read under the full path of its place, unless that path is too long. -/

set_option autoImplicit false

namespace AutomataShell

open Text

namespace Path

/-- A path in normal form: no empty component and no dot. -/
structure IsNormal (path : Path) : Prop where
  root : path.root = [] ∨ path.root = ['/'] ∨ path.root = ['/', '/']
  parts : ∀ part ∈ path.parts, isStep part = true ∧ '/' ∉ part

theorem isNormal_ofText (text : Text) : (ofText text).IsNormal where
  root := by
    unfold ofText rootOf
    simp only
    split
    · exact Or.inl rfl
    · exact Or.inr (Or.inr rfl)
    · exact Or.inr (Or.inl rfl)
  parts part member :=
    ⟨(List.mem_filter.1 member).2, not_mem_of_mem_pieces (List.mem_filter.1 member).1⟩

theorem expandHome_eq {homes : List (Text × Place)} {path target : Path}
    (expanded : path.expandHome homes = .ok target) :
    target = path ∨
      ∃ user home rest, (user, home) ∈ homes ∧ '\x00' ∉ user ∧ path.parts = ('~' :: user) :: rest ∧
        target = ⟨['/'], home ++ rest⟩ := by
  unfold expandHome at expanded
  split at expanded
  · rename_i user rest noRoot parts
    split at expanded
    · cases expanded
    · rename_i visible
      rw [List.contains_iff_mem] at visible
      split at expanded
      · rename_i home known
        cases expanded
        obtain ⟨before, after, split, _⟩ := List.lookup_eq_some_iff.1 known
        exact Or.inr ⟨user, home, rest, by rw [split]; simp, visible, parts, rfl⟩
      · cases expanded
  · cases expanded
    exact Or.inl rfl

theorem IsNormal.expandHome {homes : List (Text × Place)} {path target : Path}
    (isNormal : path.IsNormal) (names : ∀ entry ∈ homes, ∀ name ∈ entry.2, IsName name)
    (expanded : path.expandHome homes = .ok target) : target.IsNormal := by
  rcases expandHome_eq expanded with rfl | ⟨user, home, rest, known, _, parts, rfl⟩
  · exact isNormal
  · refine ⟨Or.inr (Or.inl rfl), fun part member => ?_⟩
    rcases List.mem_append.1 member with inHome | inRest
    · have isName := names _ known part inHome
      exact ⟨isName.step, isName.unslashed⟩
    · exact isNormal.parts part (by simp [parts, inRest])

theorem shown_eq {path : Path} (isNormal : path.IsNormal) (some : path.root ≠ [] ∨ path.parts ≠ []) :
    path.shown = path.root ++ join ['/'] path.parts := by
  have mark : ("/" : Text) = ['/'] := rfl
  unfold shown
  rw [mark]
  split
  · rename_i none
    rw [List.append_eq_nil_iff] at none
    rcases some with some | some
    · exact absurd none.1 some
    · obtain ⟨part, rest, parts⟩ := List.exists_cons_of_ne_nil some
      have step := (isNormal.parts part (by simp [parts])).1
      rw [parts] at none
      cases rest <;> simp_all [join, isStep]
  · rfl

theorem filter_pieces_join {parts : List Text}
    (normal : ∀ part ∈ parts, isStep part = true ∧ '/' ∉ part) :
    (pieces '/' (join ['/'] parts)).filter isStep = parts := by
  by_cases none : parts = []
  · rw [none]
    decide
  · rw [pieces_join none fun part member => (normal part member).2, List.filter_eq_self]
    exact fun part member => (normal part member).1

theorem pieces_slash (text : Text) : pieces '/' ('/' :: text) = [] :: pieces '/' text := by
  rw [pieces, if_pos rfl]

theorem empty_or_shown {path : Path} (isNormal : path.IsNormal) :
    path.root = [] ∧ path.parts = [] ∧ path.shown = ['.'] ∨
      path.shown = path.root ++ join ['/'] path.parts := by
  by_cases some : path.root ≠ [] ∨ path.parts ≠ []
  · exact Or.inr (shown_eq isNormal some)
  · simp only [not_or, ne_eq, Decidable.not_not] at some
    refine Or.inl ⟨some.1, some.2, ?_⟩
    unfold shown
    rw [some.1, some.2]
    rfl

/-- The components of a path as it is shown are those of the path. -/
theorem filter_pieces_shown {path : Path} (isNormal : path.IsNormal) :
    (pieces '/' path.shown).filter isStep = path.parts := by
  have parts := filter_pieces_join isNormal.parts
  have empty : isStep [] = false := rfl
  rcases empty_or_shown isNormal with ⟨_, noParts, shown⟩ | shown
  · rw [shown, noParts]
    decide
  · rw [shown]
    rcases isNormal.root with root | root | root <;> simp [root, pieces_slash, empty, parts]

theorem head_shown {path : Path} (isNormal : path.IsNormal) :
    path.shown.head? = some '/' ↔ path.root ≠ [] := by
  rcases empty_or_shown isNormal with ⟨noRoot, _, shown⟩ | shown
  · simp [shown, noRoot]
  · rw [shown]
    rcases isNormal.root with root | root | root
    · rw [root, List.nil_append]
      cases parts : path.parts with
      | nil => simp [join]
      | cons part rest =>
        obtain ⟨step, unslashed⟩ := isNormal.parts part (by simp [parts])
        rcases part with _ | ⟨c, part⟩
        · cases step
        · have other : c ≠ '/' := fun same => unslashed (by simp [same])
          cases rest <;> simp [join, other]
    · simp [root]
    · simp [root]

theorem mem_shown {path : Path} (isNormal : path.IsNormal) {part : Text} (inParts : part ∈ path.parts)
    {c : Char} (member : c ∈ part) : c ∈ path.shown := by
  rw [shown_eq isNormal (Or.inr (List.ne_nil_of_mem inParts))]
  exact List.mem_append_right _ (mem_join_of_mem _ inParts member)

/-- Whatever stands in a path is shown, apart from a leading tilde and the name of its user. -/
theorem visible_of_expandHome {homes : List (Text × Place)}
    (names : ∀ entry ∈ homes, ∀ name ∈ entry.2, IsName name) {text : Text}
    {target : Path} (expanded : (ofText text).expandHome homes = .ok target)
    (visible : '\x00' ∉ target.shown) : '\x00' ∉ text := by
  intro member
  have isNormal := (isNormal_ofText text).expandHome names expanded
  -- The character stands in a component, which is neither empty nor a dot.
  obtain ⟨piece, inPieces, inside⟩ := exists_piece_of_mem (by decide : '\x00' ≠ '/') member
  have step : isStep piece = true := by
    rw [isStep, Bool.and_eq_true, bne_iff_ne, bne_iff_ne]
    constructor <;>
    · rintro rfl
      revert inside
      decide
  have inParts : piece ∈ (ofText text).parts := List.mem_filter.2 ⟨inPieces, step⟩
  rcases expandHome_eq expanded with rfl | ⟨user, home, rest, _, unseen, parts, rfl⟩
  · exact visible (mem_shown isNormal inParts inside)
  · rw [parts] at inParts
    rcases List.mem_cons.1 inParts with rfl | inRest
    · rcases List.mem_cons.1 inside with isTilde | inUser
      · revert isTilde
        decide
      · exact unseen inUser
    · exact visible (mem_shown isNormal (List.mem_append_right home inRest) inside)

end Path

namespace Disk

variable {disk : Disk}

/-- A path in normal form leads where it resolves to, if it leads anywhere. -/
theorem find_shown {target : Path} {place : Place} (isNormal : target.IsNormal)
    (found : disk.find target.shown = .ok place) : place = target.resolve disk.directory := by
  unfold find at found
  split at found
  · cases found
  · split at found
    · cases found
    · rw [follow_eq_foldl found, Path.filter_pieces_shown isNormal, Path.resolve]
      by_cases root : target.root = []
      · rw [if_pos root, if_neg (mt (Path.head_shown isNormal).1 (by simp [root]))]
      · rw [if_neg root, if_pos ((Path.head_shown isNormal).2 root)]

theorem reaches_of_find (proper : disk.IsProper) {path : Text} {place : Place}
    (visible : '\x00' ∉ path) (found : disk.find path = .ok place) : disk.Reaches place := by
  unfold find at found
  split at found
  · cases found
  · split at found
    · cases found
    · apply reaches_of_follow _ _ found
      · split
        · exact reaches_nil disk
        · exact proper.reaches_directory
      · intro name member
        exact ⟨not_mem_of_mem_pieces member, fun inside => visible (mem_of_mem_pieces member inside)⟩

/-- A place is found under its full path. -/
theorem find_place {place : Place} (reaches : disk.Reaches place) (below : place ≠ [])
    (short : utf8Length place.shown ≤ pathLimit) : disk.find place.shown = .ok place := by
  have mark : ("/" : Text) = ['/'] := rfl
  have shown : place.shown = '/' :: join ['/'] place := by
    rw [Place.shown, mark]
    rfl
  have split : pieces '/' place.shown = [] :: place := by
    rw [shown, Path.pieces_slash,
      pieces_join below fun name member => (reaches.names name member).unslashed]
  -- The path starts with a slash, so its first component is empty and leads nowhere.
  have empty : Path.isStep [] = false := rfl
  have top : disk.entryAt [] = some .directory := rfl
  have started : (if place.shown.head? = some '/' then [] else disk.directory) = ([] : Place) := by
    rw [shown]
    rfl
  unfold find
  rw [if_neg (by simp [shown]), if_neg (by omega), split, started, follow, top]
  simp only [empty, Bool.not_false, if_true]
  exact follow_of_reaches reaches

theorem IsProper.put (proper : disk.IsProper) {place : Place} {content : FileContent}
    (other : disk.entryAt place ≠ some .directory) : (disk.put place (.file content)).IsProper where
  homes := proper.homes
  directory := proper.directory
  stands higher isAbove := by
    have isDirectory := proper.stands higher isAbove
    have apart : higher ≠ place := fun same => other (same ▸ isDirectory)
    have below : place ≠ [] := fun top => other (by rw [top]; rfl)
    rw [entryAt_put _ _ _ _ below, if_neg apart, isDirectory]

theorem eq_put_of_writeText {path text : Text} {after : Disk}
    (written : disk.writeText path text = .ok after) :
    '\x00' ∉ path ∧ ∃ place, disk.find path = .ok place ∧ disk.entryAt place ≠ some .directory ∧
      after = disk.put place (.file (.readable text)) := by
  unfold writeText at written
  split at written
  · cases written
  · rename_i visible
    refine ⟨by simpa using visible, ?_⟩
    cases found : disk.find path with
    | error fault => simp [write, found, bind, Except.bind] at written
    | ok place =>
      refine ⟨place, rfl, ?_⟩
      simp only [write, found, bind, Except.bind] at written
      split at written
      · cases written
      · rename_i changed same
        split at same
        · cases same
        · rename_i other
          cases same
          cases written
          exact ⟨other, rfl⟩

/-- What was written is read again, as far as the full path of the file can be opened. -/
theorem readText_of_writeText (proper : disk.IsProper) {target : Path} (isNormal : target.IsNormal)
    {text : Text} {after : Disk} (written : disk.writeText target.shown text = .ok after) :
    after.readText (target.resolve disk.directory).shown =
      if utf8Length (target.resolve disk.directory).shown ≤ pathLimit then .ok (unifyBreaks text)
      else .error (.refused ⟨.nameTooLong, (target.resolve disk.directory).shown⟩) := by
  obtain ⟨visible, place, found, other, rfl⟩ := eq_put_of_writeText written
  have reaches := reaches_of_find proper visible found
  have below : place ≠ [] := fun top => other (by rw [top]; rfl)
  rw [← find_shown isNormal found]
  -- Writing replaces no directory, so the way to the place is still there.
  have reachesAfter : (disk.put place (.file (.readable text))).Reaches place := by
    refine ⟨reaches.names, fun higher isAbove apart => ?_⟩
    rw [entryAt_put _ _ _ _ below, if_neg apart, reaches.above higher isAbove apart]
  have holds : (disk.put place (.file (.readable text))).entryAt place =
      some (.file (.readable text)) := by
    rw [entryAt_put _ _ _ _ below, if_pos rfl]
  have visiblePlace : '\x00' ∉ place.shown := by
    intro member
    rcases List.mem_cons.1 member with isSlash | inNames
    · revert isSlash
      decide
    · rcases mem_join inNames with isSlash | ⟨name, inPlace, inside⟩
      · simp at isSlash
      · exact (reaches.names name inPlace).visible inside
  unfold readText
  rw [if_neg (by simpa using visiblePlace)]
  by_cases short : utf8Length place.shown ≤ pathLimit
  · rw [if_pos short]
    simp only [read, find_place reachesAfter below short, bind, Except.bind, holds]
  · have long : (disk.put place (.file (.readable text))).find place.shown = .error .nameTooLong := by
      unfold find
      rw [if_neg (by simp [Place.shown]), if_pos (by omega)]
    rw [if_neg short]
    simp only [read, long, bind, Except.bind]

end Disk

/-- A component that leads one further down. -/
structure LeadsDown (name : Text) : Prop where
  step : Path.isStep name = true
  forward : name ≠ ['.', '.']
  unslashed : '/' ∉ name

/-- The directories in which paths start have names throughout. -/
def Disk.IsNamed (disk : Disk) : Prop :=
  (∀ entry ∈ disk.homes, ∀ name ∈ entry.2, IsName name) ∧ ∀ name ∈ disk.directory, IsName name

theorem IsName.leadsDown {name : Text} (isName : IsName name) : LeadsDown name :=
  ⟨isName.step, isName.forward, isName.unslashed⟩

namespace Path

theorem leadsDown_foldl {parts : List Text} (normal : ∀ part ∈ parts, isStep part = true ∧ '/' ∉ part)
    {here : Place} (down : ∀ name ∈ here, LeadsDown name) :
    ∀ name ∈ parts.foldl descend here, LeadsDown name := by
  induction parts generalizing here with
  | nil => exact down
  | cons part rest ih =>
    apply ih fun other member => normal other (List.mem_cons_of_mem part member)
    intro name member
    unfold descend at member
    split at member
    · exact down name (List.dropLast_subset here member)
    · rename_i forward
      rcases List.mem_append.1 member with inHere | isLast
      · exact down name inHere
      · obtain ⟨step, unslashed⟩ := normal part List.mem_cons_self
        rw [List.mem_singleton.1 isLast]
        exact ⟨step, forward, unslashed⟩

theorem foldl_descend_of_leadsDown {names : List Text} (down : ∀ name ∈ names, LeadsDown name)
    (here : Place) : names.foldl descend here = here ++ names := by
  induction names generalizing here with
  | nil => simp
  | cons name rest ih =>
    rw [List.foldl_cons, descend, if_neg (down name List.mem_cons_self).forward,
      ih fun other member => down other (List.mem_cons_of_mem name member), List.append_assoc,
      List.singleton_append]

end Path

/-- The full path of a place leads there, if it leads anywhere. -/
theorem Disk.find_shown_place {disk : Disk} {place there : Place}
    (down : ∀ name ∈ place, LeadsDown name) (found : disk.find place.shown = .ok there) :
    there = place := by
  have normal : Path.IsNormal ⟨['/'], place⟩ :=
    ⟨Or.inr (Or.inl rfl), fun part member => ⟨(down part member).step, (down part member).unslashed⟩⟩
  have shown : place.shown = Path.shown ⟨['/'], place⟩ := rfl
  rw [shown] at found
  rw [find_shown normal found, Path.resolve, if_neg (by simp),
    Path.foldl_descend_of_leadsDown down, List.nil_append]

theorem Disk.entryAt_of_readText {disk : Disk} {place : Place} {script : Text}
    (down : ∀ name ∈ place, LeadsDown name) (stored : disk.readText place.shown = .ok script) :
    ∃ text, disk.entryAt place = some (.file (.readable text)) ∧ unifyBreaks text = script := by
  unfold readText at stored
  split at stored
  · cases stored
  · cases found : disk.find place.shown with
    | error fault => simp [read, found, bind, Except.bind] at stored
    | ok there =>
      have same := find_shown_place down found
      subst same
      simp only [read, found, bind, Except.bind] at stored
      cases held : disk.entryAt there with
      | none => simp [held] at stored
      | some entry =>
        rcases entry with _ | ⟨text | bytes⟩
        · simp [held] at stored
        · simp only [held, Except.ok.injEq] at stored
          exact ⟨text, rfl, stored⟩
        · simp [held] at stored

end AutomataShell
