import AutomataShell.Text.Blank
import AutomataShell.Text.LetterCase

/-! What lower case leaves as it is: blanks, and every character that is its own lower case. Nothing
else becomes a blank. -/

set_option autoImplicit false

namespace AutomataShell.Text

-- A capital sigma is left out here and below: its lower case depends on where its word ends.
theorem mem_lowerAfter {c : Char} (own : lowerChar c = [c]) (notSigma : c ≠ 'Σ')
    {text : Text} (member : c ∈ text) (reversedBefore : Text) :
    c ∈ lowerAfter reversedBefore text := by
  induction text generalizing reversedBefore with
  | nil => cases member
  | cons d rest ih =>
    rw [lowerAfter]
    rcases List.mem_cons.1 member with rfl | inRest
    · simp [own, notSigma]
    · exact List.mem_append_right _ (ih inRest _)

theorem mem_lower {c : Char} (own : lowerChar c = [c]) (notSigma : c ≠ 'Σ') {text : Text}
    (member : c ∈ text) : c ∈ lower text :=
  mem_lowerAfter own notSigma member []

-- A look at each blank of the table.
theorem imageOf_blankRanges : ∀ range ∈ blankRanges, ∀ offset < range.2 + 1 - range.1,
    0x80 ≤ range.1 + offset →
      (lowerRows.findSome? fun row => row.imageOf (range.1 + offset)) = none := by
  decide +kernel

theorem imageOf_of_isBlank {c : Char} (blank : isBlank c = true) (high : 0x80 ≤ c.toNat) :
    (lowerRows.findSome? fun row => row.imageOf c.toNat) = none := by
  obtain ⟨range, member, inside⟩ := List.any_eq_true.1 blank
  simp only [inRange, Bool.and_eq_true, decide_eq_true_eq] at inside
  obtain ⟨offset, same⟩ := Nat.exists_eq_add_of_le inside.1
  rw [same] at high inside ⊢
  exact imageOf_blankRanges range member offset (by omega) high

theorem lowerChar_of_isBlank {c : Char} (blank : isBlank c = true) : lowerChar c = [c] := by
  unfold lowerChar
  split
  · rename_i low
    -- The blanks of this range are no capital letters.
    rw [if_neg]
    intro capital
    obtain ⟨fromA, toZ⟩ := capital
    simp only [isBlank, inRanges, blankRanges, inRange, List.any_cons, List.any_nil, Bool.or_false,
      Bool.or_eq_true, Bool.and_eq_true, decide_eq_true_eq] at blank
    omega
  · rename_i high
    have notDotted : c.toNat ≠ 0x130 := by
      intro same
      rw [isBlank, same] at blank
      revert blank
      decide
    rw [if_neg notDotted, imageOf_of_isBlank blank (by omega)]

theorem mem_lower_of_isBlank {c : Char} (blank : isBlank c = true) {text : Text}
    (member : c ∈ text) : c ∈ lower text := by
  refine mem_lower (lowerChar_of_isBlank blank) ?_ member
  rintro rfl
  revert blank
  decide

theorem isBlank_ofNat {code : Nat} (solid : inRanges blankRanges code = false) :
    isBlank (Char.ofNat code) = false := by
  by_cases valid : code.isValidChar
  · have same : (Char.ofNat code).toNat = code := by
      rw [Char.ofNat, dif_pos valid]
      rfl
    rw [isBlank, same, solid]
  · -- Any other number stands for the null character.
    rw [Char.ofNat, dif_neg valid]
    decide

theorem solid_lowerRows : ∀ row ∈ lowerRows, ∀ offset < row.last + 1 - row.first,
    inRanges blankRanges (row.image + offset) = false := by
  decide +kernel

theorem solid_lowerAscii : ∀ code ≤ 0x5A, 0x41 ≤ code →
    inRanges blankRanges (code + 0x20) = false := by
  decide +kernel

/-- No lower case of a solid character is blank. -/
theorem isBlank_of_mem_lowerChar {c d : Char} (solid : isBlank c = false)
    (member : d ∈ lowerChar c) : isBlank d = false := by
  unfold lowerChar at member
  split at member
  · rw [List.mem_singleton.1 member]
    split
    · rename_i capital
      exact isBlank_ofNat (solid_lowerAscii c.toNat capital.2 capital.1)
    · exact solid
  · split at member
    · have dotted : (ofCodes [0x69, 0x307]).all (fun e => !isBlank e) = true := by
        decide
      simpa using List.all_eq_true.1 dotted d member
    · split at member
      · rename_i code found
        rw [List.mem_singleton.1 member]
        obtain ⟨row, isRow, image⟩ := List.exists_of_findSome?_eq_some found
        unfold CaseRow.imageOf at image
        split at image
        · rename_i mapped
          simp only [inRange, Bool.and_eq_true, decide_eq_true_eq] at mapped
          cases image
          exact isBlank_ofNat (solid_lowerRows row isRow _ (by omega))
        · cases image
      · rwa [List.mem_singleton.1 member]

theorem lowerChar_ne_nil (c : Char) : lowerChar c ≠ [] := by
  unfold lowerChar
  split
  · simp
  · split
    · simp [ofCodes]
    · split <;> simp [ofCodes]

theorem squeeze_lowerChar (c : Char) :
    squeeze (lowerChar c) = if isBlank c then [] else lowerChar c := by
  split
  · rename_i blank
    rw [lowerChar_of_isBlank blank]
    simp [squeeze, blank]
  · rename_i solid
    rw [Bool.not_eq_true] at solid
    rw [squeeze, List.filter_eq_self]
    exact fun d member => by simp [isBlank_of_mem_lowerChar solid member]

/-- Blanks neither come from lower case nor change it. -/
theorem squeeze_lower {text : Text} (noSigma : 'Σ' ∉ text) :
    squeeze (lower text) = (squeeze text).flatMap lowerChar := by
  rw [lower, lowerAfter_eq_flatMap _ _ noSigma]
  -- From here on each character is lowered by itself.
  clear noSigma
  induction text with
  | nil => rfl
  | cons c rest ih =>
    have first := squeeze_lowerChar c
    unfold squeeze at ih first ⊢
    rw [List.flatMap_cons, List.filter_append, ih, first, List.filter_cons]
    cases blank : isBlank c <;> simp

end AutomataShell.Text
