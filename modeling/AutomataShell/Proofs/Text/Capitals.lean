import AutomataShell.Proofs.Text.Words
import AutomataShell.Text.LetterCase

/-! Texts that differ in the case of ASCII letters only. They are told by writing these letters small,
which neither blanks nor the case of any other character depend on. -/

set_option autoImplicit false

namespace AutomataShell.Text

/-- The text with its ASCII letters small. -/
def small (text : Text) : Text :=
  text.map Char.toLower

/-- What does not tell a capital ASCII letter from the small one tells no character from its small one. -/
theorem apply_toLower {α : Type} (look : Char → α)
    (blind : ∀ offset < 26, look (Char.ofNat (0x41 + offset)).toLower =
      look (Char.ofNat (0x41 + offset))) (c : Char) : look c.toLower = look c := by
  by_cases capital : c.val ≥ 'A'.val ∧ c.val ≤ 'Z'.val
  · have inRange : 0x41 ≤ c.toNat ∧ c.toNat ≤ 0x5A := capital
    obtain ⟨offset, same⟩ := Nat.exists_eq_add_of_le inRange.1
    have known := blind offset (by omega)
    rwa [← same, Char.ofNat_toNat] at known
  · exact congrArg look (dif_neg capital)

theorem isBlank_toLower (c : Char) : isBlank c.toLower = isBlank c :=
  apply_toLower isBlank (by decide) c

theorem lowerChar_toLower (c : Char) : lowerChar c.toLower = lowerChar c :=
  apply_toLower lowerChar (by decide) c

theorem upperChar_toLower (c : Char) : upperChar c.toLower = upperChar c :=
  apply_toLower upperChar (by decide) c

section

variable (text : Text)

theorem dropWhile_small : (small text).dropWhile isBlank = small (text.dropWhile isBlank) := by
  rw [small, List.dropWhile_map]
  congr 2
  exact funext isBlank_toLower

theorem all_isBlank_small : (small text).all isBlank = text.all isBlank := by
  rw [small, List.all_map]
  congr 1
  exact funext isBlank_toLower

theorem trimEnd_small : trimEnd (small text) = small (trimEnd text) := by
  induction text with
  | nil => rfl
  | cons c rest ih =>
    rw [small, List.map_cons, ← small, trimEnd, trimEnd, ih, isBlank_toLower]
    cases trimEnd rest with
    | nil => cases blank : isBlank c <;> simp [small]
    | cons d kept => rfl

theorem trim_small : trim (small text) = small (trim text) := by
  rw [trim, dropWhile_small, trimEnd_small, trim]

theorem headWord_small :
    headWord (small text) = (small (headWord text).1, small (headWord text).2) := by
  have solid : (fun c : Char => !isBlank c) ∘ Char.toLower = fun c => !isBlank c := by
    funext c
    rw [Function.comp_apply, isBlank_toLower]
  rw [headWord, headWord, dropWhile_small]
  simp only
  rw [← trim_small, small, List.takeWhile_map, List.dropWhile_map, solid]
  rfl

theorem startsCased_small : startsCased (small text) = startsCased text := by
  have ignorable : (fun c : Char => inRanges caseIgnorableRanges c.toNat) ∘ Char.toLower =
      fun c => inRanges caseIgnorableRanges c.toNat :=
    funext (apply_toLower (fun c => inRanges caseIgnorableRanges c.toNat) (by decide +kernel))
  rw [startsCased, startsCased, small, List.dropWhile_map, ignorable]
  cases text.dropWhile fun c => inRanges caseIgnorableRanges c.toNat with
  | nil => rfl
  | cons c rest =>
    exact apply_toLower (fun c => inRanges casedRanges c.toNat) (by decide +kernel) c

/-- Both cases of a letter have the same lower case, and are cased letters to a sigma alike. -/
theorem lowerAfter_small (reversedBefore : Text) :
    lowerAfter (small reversedBefore) (small text) = lowerAfter reversedBefore text := by
  induction text generalizing reversedBefore with
  | nil => rfl
  | cons c rest ih =>
    have others := ih (c :: reversedBefore)
    have isSigma : c.toLower = 'Σ' ↔ c = 'Σ' := by
      have look := apply_toLower (fun d => d == 'Σ') (by decide) c
      simpa using congrArg (· = true) look
    rw [small, List.map_cons, ← small] at others
    rw [show small (c :: rest) = c.toLower :: small rest from rfl, lowerAfter, lowerAfter, others,
      isFinalSigma, isFinalSigma, startsCased_small, startsCased_small, lowerChar_toLower]
    simp only [isSigma]

theorem lower_small : lower (small text) = lower text :=
  lowerAfter_small text []

theorem upper_small : upper (small text) = upper text := by
  rw [upper, small, List.flatMap_map, upper]
  exact congrArg (text.flatMap ·) (funext upperChar_toLower)

end

end AutomataShell.Text
