import AutomataShell.Machine.Error

/-! Building a machine: its kind and alphabet first, then nodes, edges and accepting nodes one by
one. The first node is the initial one. A call on a machine gives its outcome and the machine that it
leaves, whether it was carried out or not. -/

set_option autoImplicit false

namespace AutomataShell.Machine

open Text

/-- What a call says, and the machine that it leaves. -/
abbrev Called (Reason α : Type) := Except Reason α × Machine

def empty (kind : Kind) (alphabet : List Char) : Machine :=
  ⟨kind, alphabet, [], none, [], []⟩

def checkSymbols : List Label → Except MachineError (List Char)
  | [] => .ok []
  | symbol :: rest =>
    match symbol.check with
    | .error fault => .error (.badSymbol symbol fault)
    | .ok c => (checkSymbols rest).map (c :: ·)

def hasRepetition : List Char → Bool
  | [] => false
  | c :: rest => rest.contains c || hasRepetition rest

/-- A machine without nodes over a legal alphabet. -/
def create (kind : Kind) (alphabet : Option (List Label)) : Except MachineError Machine :=
  match alphabet with
  | none => .error .noAlphabet
  | some labels =>
    match checkSymbols labels with
    | .error why => .error why
    | .ok symbols =>
      if hasRepetition symbols then
        .error .repeatedSymbol
      else if kind = .deterministic ∧ symbols.contains emptyMove then
        .error .emptyMoveInAlphabet
      else
        .ok (empty kind symbols)

/-- As `create`, for the name of a kind in any case. -/
def createNamed (kind : Text) (alphabet : Option (List Label)) : Except MachineError Machine :=
  match Kind.ofName (lower kind) with
  | none => .error (.unknownKind kind)
  | some kind => create kind alphabet

/-- Calls one after the other. The first that fails ends them, on the machine reached so far. -/
def callAll {Reason : Type} : Machine → List (Machine → Called Reason Unit) → Called Reason Unit
  | machine, [] => (.ok (), machine)
  | machine, call :: rest =>
    match call machine with
    | (.error why, left) => (.error why, left)
    | (.ok (), left) => left.callAll rest

variable (machine : Machine)

def findNode (name : Label) : Except MachineError Char :=
  match name with
  | some [c] => if machine.nodes.contains c then .ok c else .error (.unknownNodes [name])
  | _ => .error (.unknownNodes [name])

/-- Whether the label names a node. -/
def hasNode (name : Label) : Bool :=
  (machine.findNode name).isOk

def checkNewNode (name : Label) : Except MachineError Char :=
  match name.check with
  | .error fault => .error (.badName name fault)
  | .ok c => if machine.nodes.contains c then .error (.nameTaken c) else .ok c

def addNode (name : Label) (accepting : Bool) : Called MachineError Unit :=
  match machine.checkNewNode name with
  | .error why => (.error why, machine)
  | .ok c =>
    let larger := machine.insertNode c
    (.ok (), if accepting then larger.insertAccepting c else larger)

def makeAccepting (name : Label) : Called MachineError Unit :=
  match machine.findNode name with
  | .error why => (.error why, machine)
  | .ok c => (.ok (), machine.insertAccepting c)

/-- A symbol that an edge may carry. -/
def findSymbol (symbol : Label) : Except MachineError Char :=
  if machine.kind = .deterministic ∧ symbol = Label.ofChar emptyMove then
    .error .emptyMoveForbidden
  else
    match symbol with
    | some [c] =>
      if machine.symbols.contains c then
        .ok c
      else
        .error (.foreignLetter machine.kind symbol machine.alphabet)
    | _ => .error (.foreignLetter machine.kind symbol machine.alphabet)

/-- The edge between two nodes, if there may be one. -/
def checkEdge (source symbol target : Label) : Except MachineError Edge := do
  let s ← machine.findNode source
  let t ← machine.findNode target
  let a ← machine.findSymbol symbol
  return ⟨s, a, t⟩

def connect (source symbol target : Label) : Called MachineError Unit :=
  match machine.checkEdge source symbol target with
  | .error why => (.error why, machine)
  | .ok edge => (.ok (), machine.insertEdge edge)

def isInitial (name : Label) : Except MachineError Bool := do
  let c ← machine.findNode name
  return machine.initial == some c

/-- Whether the label names an accepting node; any other label does not. -/
def isAccepting : Label → Bool
  | some [c] => machine.accepting.contains c
  | _ => false

theorem findNode_eq_ok_iff (name : Label) (c : Char) :
    machine.findNode name = .ok c ↔ name = Label.ofChar c ∧ c ∈ machine.nodes := by
  match name with
  | none => simp [findNode, Label.ofChar]
  | some [] => simp [findNode, Label.ofChar]
  | some (_ :: _ :: _) => simp [findNode, Label.ofChar]
  | some [d] =>
    by_cases known : d ∈ machine.nodes
    · simp only [findNode, List.contains_iff_mem, known, if_true, Except.ok.injEq, Label.ofChar,
        Option.some.injEq, List.cons.injEq, and_true]
      constructor
      · rintro rfl
        exact ⟨rfl, known⟩
      · exact fun same => same.1
    · simp only [findNode, List.contains_iff_mem, known, if_false, reduceCtorEq, Label.ofChar,
        Option.some.injEq, List.cons.injEq, and_true, false_iff, not_and]
      rintro rfl
      exact known

theorem checkNewNode_eq_ok_iff (name : Label) (c : Char) :
    machine.checkNewNode name = .ok c ↔
      name = Label.ofChar c ∧ Label.IsLegal c ∧ c ∉ machine.nodes := by
  unfold checkNewNode
  split
  · rename_i fault refused
    constructor
    · intro accepted
      cases accepted
    · rintro ⟨same, legal, _⟩
      rw [(Label.check_eq_ok_iff name c).2 ⟨same, legal⟩] at refused
      cases refused
  · rename_i d accepted
    obtain ⟨same, legal⟩ := (Label.check_eq_ok_iff name d).1 accepted
    subst same
    by_cases taken : d ∈ machine.nodes
    · simp only [List.contains_iff_mem, taken, if_true, reduceCtorEq, Label.ofChar,
        Option.some.injEq, List.cons.injEq, and_true, false_iff, not_and]
      rintro rfl _ fresh
      exact fresh taken
    · simp only [List.contains_iff_mem, taken, if_false, Except.ok.injEq, Label.ofChar,
        Option.some.injEq, List.cons.injEq, and_true]
      constructor
      · rintro rfl
        exact ⟨rfl, legal, taken⟩
      · exact fun same => same.1

end AutomataShell.Machine
