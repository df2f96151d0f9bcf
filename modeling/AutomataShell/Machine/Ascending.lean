/-! Lists kept in ascending order without repetitions: the canonical form of a finite set. -/

set_option autoImplicit false

namespace AutomataShell.Ascending

variable {α : Type}

/-- Inserts an element in its place; an element already there stays alone. -/
def insert (before : α → α → Bool) (x : α) : List α → List α
  | [] => [x]
  | y :: rest =>
    if before x y then
      x :: y :: rest
    else if before y x then
      y :: insert before x rest
    else
      y :: rest

/-- The elements of a list, each once. -/
def ofList (before : α → α → Bool) (list : List α) : List α :=
  list.foldr (insert before) []

/-- Puts an element before the first that is not smaller, repetitions included. -/
def place (before : α → α → Bool) (x : α) : List α → List α
  | [] => [x]
  | y :: kept => if before y x then y :: place before x kept else x :: y :: kept

def sort (before : α → α → Bool) : List α → List α
  | [] => []
  | x :: rest => place before x (sort before rest)

/-- What a comparison has to satisfy for the order of a list to be canonical. -/
structure StrictOrder (before : α → α → Bool) : Prop where
  irrefl : ∀ x, before x x = false
  trans : ∀ x y z, before x y = true → before y z = true → before x z = true
  total : ∀ x y, before x y = false → before y x = false → x = y

def IsAscending (before : α → α → Bool) (list : List α) : Prop :=
  list.Pairwise fun x y => before x y = true

theorem mem_insert {before : α → α → Bool} (order : StrictOrder before) (x z : α)
    (list : List α) : z ∈ insert before x list ↔ z = x ∨ z ∈ list := by
  induction list with
  | nil => simp [insert]
  | cons y rest ih =>
    unfold insert
    split
    · simp
    · split
      · simp only [List.mem_cons, ih]
        constructor
        · rintro (same | same | inside) <;> simp [*]
        · rintro (same | same | inside) <;> simp [*]
      · rename_i notBefore notAfter
        have same : x = y := order.total x y (by simpa using notBefore) (by simpa using notAfter)
        simp [same]

theorem isAscending_insert {before : α → α → Bool} (order : StrictOrder before) (x : α)
    {list : List α} (ascending : IsAscending before list) :
    IsAscending before (insert before x list) := by
  induction list with
  | nil => simp [insert, IsAscending]
  | cons y rest ih =>
    obtain ⟨above, ascendingRest⟩ := List.pairwise_cons.1 ascending
    unfold insert
    by_cases first : before x y = true
    · rw [if_pos first]
      refine List.pairwise_cons.2 ⟨?_, ascending⟩
      intro z member
      rcases List.mem_cons.1 member with rfl | inRest
      · exact first
      · exact order.trans x y z first (above z inRest)
    · rw [if_neg first]
      by_cases second : before y x = true
      · rw [if_pos second]
        refine List.pairwise_cons.2 ⟨?_, ih ascendingRest⟩
        intro z member
        rcases (mem_insert order x z rest).1 member with rfl | inRest
        · exact second
        · exact above z inRest
      · rw [if_neg second]
        exact ascending

theorem mem_ofList {before : α → α → Bool} (order : StrictOrder before) (x : α) (list : List α) :
    x ∈ ofList before list ↔ x ∈ list := by
  induction list with
  | nil => simp [ofList]
  | cons y rest ih =>
    have onward : ofList before (y :: rest) = insert before y (ofList before rest) := rfl
    rw [onward, mem_insert order, ih, List.mem_cons]

theorem isAscending_ofList {before : α → α → Bool} (order : StrictOrder before) (list : List α) :
    IsAscending before (ofList before list) := by
  induction list with
  | nil => exact .nil
  | cons y rest ih => exact isAscending_insert order y ih

/-- An ascending list is determined by its members. -/
theorem eq_of_isAscending {before : α → α → Bool} (order : StrictOrder before)
    {left right : List α} (ascendingLeft : IsAscending before left)
    (ascendingRight : IsAscending before right) (same : ∀ z, z ∈ left ↔ z ∈ right) :
    left = right := by
  induction left generalizing right with
  | nil =>
    cases right with
    | nil => rfl
    | cons y rest => exact absurd ((same y).2 List.mem_cons_self) (by simp)
  | cons x leftRest ih =>
    cases right with
    | nil => exact absurd ((same x).1 List.mem_cons_self) (by simp)
    | cons y rightRest =>
      obtain ⟨aboveX, ascendingLeftRest⟩ := List.pairwise_cons.1 ascendingLeft
      obtain ⟨aboveY, ascendingRightRest⟩ := List.pairwise_cons.1 ascendingRight
      have heads : x = y := by
        rcases List.mem_cons.1 ((same x).1 List.mem_cons_self) with equal | inRight
        · exact equal
        · rcases List.mem_cons.1 ((same y).2 List.mem_cons_self) with equal | inLeft
          · exact equal.symm
          · have circle := order.trans x y x (aboveX y inLeft) (aboveY x inRight)
            exact absurd circle (by simp [order.irrefl x])
      subst heads
      rw [ih ascendingLeftRest ascendingRightRest]
      intro z
      have notInRest {rest : List α} (above : ∀ z ∈ rest, before x z = true) : x ∉ rest := by
        intro member
        have circle := above x member
        simp [order.irrefl x] at circle
      constructor
      · intro member
        rcases List.mem_cons.1 ((same z).1 (List.mem_cons_of_mem x member)) with equal | inRest
        · exact absurd (equal ▸ member) (notInRest aboveX)
        · exact inRest
      · intro member
        rcases List.mem_cons.1 ((same z).2 (List.mem_cons_of_mem x member)) with equal | inRest
        · exact absurd (equal ▸ member) (notInRest aboveY)
        · exact inRest

theorem StrictOrder.asymm {before : α → α → Bool} (order : StrictOrder before) {x y : α}
    (first : before x y = true) : before y x = false := by
  cases second : before y x with
  | false => rfl
  | true =>
    have circle := order.trans x y x first second
    rw [order.irrefl] at circle
    cases circle

theorem place_perm (before : α → α → Bool) (x : α) (list : List α) :
    (place before x list).Perm (x :: list) := by
  induction list with
  | nil => exact .refl _
  | cons y kept ih =>
    simp only [place]
    split
    · exact (ih.cons y).trans (.swap x y kept)
    · exact .refl _

theorem sort_perm (before : α → α → Bool) (list : List α) : (sort before list).Perm list := by
  induction list with
  | nil => exact .refl _
  | cons x rest ih => exact (place_perm before x _).trans (ih.cons x)

theorem pairwise_place {before : α → α → Bool} (order : StrictOrder before) (x : α) {list : List α}
    (sorted : list.Pairwise fun y z => before z y = false) :
    (place before x list).Pairwise fun y z => before z y = false := by
  induction list with
  | nil => simp [place]
  | cons y kept ih =>
    obtain ⟨least, sortedKept⟩ := List.pairwise_cons.1 sorted
    simp only [place]
    cases smaller : before y x with
    | true =>
      refine List.pairwise_cons.2 ⟨fun z member => ?_, ih sortedKept⟩
      rcases List.mem_cons.1 ((place_perm before x kept).mem_iff.1 member) with rfl | inKept
      · exact order.asymm smaller
      · exact least z inKept
    | false =>
      refine List.pairwise_cons.2 ⟨fun z member => ?_, sorted⟩
      rcases List.mem_cons.1 member with rfl | inKept
      · exact smaller
      · cases below : before z x with
        | false => rfl
        | true =>
          -- What is smaller than x is smaller than y too, which is x or comes after it.
          have least := least z inKept
          cases larger : before x y with
          | false =>
            rw [order.total x y larger smaller, least] at below
            cases below
          | true =>
            rw [order.trans z x y below larger] at least
            cases least

theorem pairwise_sort {before : α → α → Bool} (order : StrictOrder before) (list : List α) :
    (sort before list).Pairwise fun y z => before z y = false := by
  induction list with
  | nil => exact .nil
  | cons x rest ih => exact pairwise_place order x ih

end AutomataShell.Ascending
