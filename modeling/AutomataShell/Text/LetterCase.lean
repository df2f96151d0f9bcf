import AutomataShell.Text.CaseTable

/-! Lower and upper case by the full Unicode mappings. A capital sigma that ends a word becomes the
final sigma, so lower case depends on the neighbours of a character. -/

set_option autoImplicit false

namespace AutomataShell.Text

def ofCodes (codes : List Nat) : Text :=
  codes.map Char.ofNat

/-- The lower case of a character that stands alone. -/
def lowerChar (c : Char) : Text :=
  if c.toNat < 0x80 then
    [if 0x41 ≤ c.toNat ∧ c.toNat ≤ 0x5A then Char.ofNat (c.toNat + 0x20) else c]
  else if c.toNat = 0x130 then
    ofCodes [0x69, 0x307]
  else
    match lowerRows.findSome? fun row => row.imageOf c.toNat with
    | some code => ofCodes [code]
    | none => [c]

def upperChar (c : Char) : Text :=
  if c.toNat < 0x80 then
    [if 0x61 ≤ c.toNat ∧ c.toNat ≤ 0x7A then Char.ofNat (c.toNat - 0x20) else c]
  else
    match upperSequences.lookup c.toNat with
    | some codes => ofCodes codes
    | none =>
      match upperRows.findSome? fun row => row.imageOf c.toNat with
      | some code => ofCodes [code]
      | none => [c]

/-- Whether the first character that is not case-ignorable is cased. -/
def startsCased (text : Text) : Bool :=
  match text.dropWhile fun c => inRanges caseIgnorableRanges c.toNat with
  | [] => false
  | c :: _ => inRanges casedRanges c.toNat

/-- A capital sigma is final when a cased character stands before it and none follows, looking
past case-ignorable characters on both sides. -/
def isFinalSigma (reversedBefore after : Text) : Bool :=
  startsCased reversedBefore && !startsCased after

/-- Lower case of a text that continues the reversed text before it. -/
def lowerAfter : Text → Text → Text
  | _, [] => []
  | reversedBefore, c :: rest =>
    (if c = 'Σ' ∧ isFinalSigma reversedBefore rest then ['ς'] else lowerChar c) ++
      lowerAfter (c :: reversedBefore) rest

def lower (text : Text) : Text :=
  lowerAfter [] text

def upper (text : Text) : Text :=
  text.flatMap upperChar

@[simp] theorem lower_nil : lower [] = [] := rfl

/-- Without a capital sigma, lower case maps each character by itself. -/
theorem lowerAfter_eq_flatMap (reversedBefore text : Text) (noSigma : 'Σ' ∉ text) :
    lowerAfter reversedBefore text = text.flatMap lowerChar := by
  induction text generalizing reversedBefore with
  | nil => rfl
  | cons c rest ih =>
    have notSigma : c ≠ 'Σ' := fun same => noSigma (by simp [same])
    have noSigmaRest : 'Σ' ∉ rest := fun member => noSigma (List.mem_cons_of_mem _ member)
    simp [lowerAfter, notSigma, ih _ noSigmaRest]

end AutomataShell.Text
