import AutomataShell.Machine.Construction

/-! How machines come about: a machine without nodes over a legal alphabet, and steps that are each
carried out or refused. Whatever the steps are, the machine stays proper. -/

set_option autoImplicit false

namespace AutomataShell

inductive BuildStep where
  | node (name : Label) (accepting : Bool)
  | edge (source symbol target : Label)
  | accept (name : Label)
  deriving DecidableEq, Repr

namespace Machine

/-- The call on a machine that a step is. -/
def call (machine : Machine) : BuildStep → Called MachineError Unit
  | .node name accepting => machine.addNode name accepting
  | .edge source symbol target => machine.connect source symbol target
  | .accept name => machine.makeAccepting name

/-- The machine that a call leaves, if it was carried out. -/
def Called.done {Reason α : Type} (called : Called Reason α) : Except Reason Machine :=
  called.1.map fun _ => called.2

def attempt (machine : Machine) (step : BuildStep) : Except MachineError Machine :=
  (machine.call step).done

/-- The machine after a step, carried out or not. -/
def proceed (machine : Machine) (step : BuildStep) : Machine :=
  (machine.call step).2

def build (machine : Machine) (steps : List BuildStep) : Machine :=
  steps.foldl proceed machine

/-- A call, or a change that is made of calls, that changes nothing when it fails. -/
def IsAtomic {Reason α : Type} (change : Machine → Called Reason α) : Prop :=
  ∀ machine why, (change machine).1 = .error why → (change machine).2 = machine

theorem done_eq_ok_iff {Reason : Type} {called : Called Reason Unit} {last : Machine} :
    called.done = .ok last ↔ called = (.ok (), last) := by
  rw [Called.done, Prod.ext_iff]
  cases called.1 <;> simp [Except.map]

theorem done_eq_error_iff {Reason α : Type} {called : Called Reason α} {why : Reason} :
    called.done = .error why ↔ called.1 = .error why := by
  rw [Called.done]
  cases called.1 <;> simp [Except.map]

section Steps

variable (machine : Machine)

theorem attempt_node (name : Label) (accepting : Bool) :
    machine.attempt (.node name accepting) = (machine.checkNewNode name).map fun c =>
      if accepting then (machine.insertNode c).insertAccepting c else machine.insertNode c := by
  rw [attempt, call, addNode]
  cases machine.checkNewNode name <;> rfl

theorem attempt_edge (source symbol target : Label) :
    machine.attempt (.edge source symbol target) =
      (machine.checkEdge source symbol target).map machine.insertEdge := by
  rw [attempt, call, connect]
  cases machine.checkEdge source symbol target <;> rfl

theorem attempt_accept (name : Label) :
    machine.attempt (.accept name) = (machine.findNode name).map machine.insertAccepting := by
  rw [attempt, call, makeAccepting]
  cases machine.findNode name <;> rfl

end Steps

/-- Each call makes its checks before it changes anything. -/
theorem isAtomic_call (step : BuildStep) : IsAtomic fun machine => machine.call step := by
  intro machine why failed
  cases step with
  | node name accepting =>
    simp only [call, addNode] at failed ⊢
    cases checked : machine.checkNewNode name with
    | error _ => rfl
    | ok c => simp [checked] at failed
  | edge source symbol target =>
    simp only [call, connect] at failed ⊢
    cases checked : machine.checkEdge source symbol target with
    | error _ => rfl
    | ok edge => simp [checked] at failed
  | accept name =>
    simp only [call, makeAccepting] at failed ⊢
    cases found : machine.findNode name with
    | error _ => rfl
    | ok c => simp [found] at failed

theorem proceed_of_done {machine next : Machine} {step : BuildStep}
    (done : machine.attempt step = .ok next) : machine.proceed step = next := by
  rw [proceed, done_eq_ok_iff.1 done]

/-- A step that is refused leaves the machine as it is. -/
theorem proceed_of_refused {machine : Machine} {step : BuildStep} {why : MachineError}
    (refused : machine.attempt step = .error why) : machine.proceed step = machine :=
  isAtomic_call step machine why (done_eq_error_iff.1 refused)

/-- What each step that is carried out keeps, all steps keep. -/
theorem build_keeps {P : Machine → Prop}
    (kept : ∀ {machine next step}, P machine → machine.attempt step = .ok next → P next)
    (steps : List BuildStep) {machine : Machine} (holds : P machine) : P (machine.build steps) := by
  induction steps generalizing machine with
  | nil => exact holds
  | cons step rest ih =>
    apply ih
    cases done : machine.attempt step with
    | ok next => exact proceed_of_done done ▸ kept holds done
    | error why => exact (proceed_of_refused done).symm ▸ holds

/-- Everything that a machine names belongs to it, and a deterministic one never has a choice. -/
structure IsProper (machine : Machine) : Prop where
  distinct : machine.alphabet.Nodup
  ascending : Ascending.IsAscending charBefore machine.nodes
  initial_eq_none_iff : machine.initial = none ↔ machine.nodes = []
  initial_mem : ∀ start, machine.initial = some start → start ∈ machine.nodes
  accepting_mem : ∀ node ∈ machine.accepting, node ∈ machine.nodes
  edges_mem : ∀ edge ∈ machine.edges,
    edge.source ∈ machine.nodes ∧ edge.symbol ∈ machine.symbols ∧ edge.target ∈ machine.nodes
  single : machine.kind = .deterministic → ∀ first ∈ machine.edges, ∀ second ∈ machine.edges,
    first.source = second.source → first.symbol = second.symbol → first.target = second.target

theorem findSymbol_eq_ok_iff (machine : Machine) (symbol : Label) (c : Char) :
    machine.findSymbol symbol = .ok c ↔
      symbol = Label.ofChar c ∧ c ∈ machine.symbols ∧
        ¬ (machine.kind = .deterministic ∧ c = emptyMove) := by
  unfold findSymbol
  by_cases forbidden : machine.kind = .deterministic ∧ symbol = Label.ofChar emptyMove
  · rw [if_pos forbidden]
    obtain ⟨isDeterministic, rfl⟩ := forbidden
    simp only [reduceCtorEq, Label.ofChar, Option.some.injEq, List.cons.injEq, and_true, false_iff,
      not_and]
    rintro rfl _ allowed
    exact allowed isDeterministic rfl
  · rw [if_neg forbidden]
    rcases symbol with _ | _ | ⟨d, _ | ⟨_, _⟩⟩
    · simp [Label.ofChar]
    · simp [Label.ofChar]
    · simp only [Label.ofChar, Option.some.injEq, List.cons.injEq, and_true] at forbidden ⊢
      by_cases known : d ∈ machine.symbols
      · simp only [List.contains_iff_mem, known, if_true, Except.ok.injEq]
        constructor
        · rintro rfl
          exact ⟨rfl, known, forbidden⟩
        · exact fun same => same.1
      · simp only [List.contains_iff_mem, known, if_false, reduceCtorEq, false_iff, not_and]
        rintro rfl held
        exact absurd held known
    · simp [Label.ofChar]

theorem checkEdge_eq_ok_iff (machine : Machine) (source symbol target : Label) (edge : Edge) :
    machine.checkEdge source symbol target = .ok edge ↔
      machine.findNode source = .ok edge.source ∧ machine.findNode target = .ok edge.target ∧
        machine.findSymbol symbol = .ok edge.symbol := by
  unfold checkEdge
  cases machine.findNode source with
  | error why => simp [bind, Except.bind]
  | ok s =>
    cases machine.findNode target with
    | error why => simp [bind, Except.bind]
    | ok t =>
      cases machine.findSymbol symbol with
      | error why => simp [bind, Except.bind]
      | ok a =>
        obtain ⟨source, symbol, target⟩ := edge
        simp only [bind, Except.bind, pure, Except.pure, Except.ok.injEq, Edge.mk.injEq]
        constructor
        · rintro ⟨rfl, rfl, rfl⟩
          exact ⟨rfl, rfl, rfl⟩
        · rintro ⟨rfl, rfl, rfl⟩
          exact ⟨rfl, rfl, rfl⟩

/-- All that a step can do. -/
theorem attempt_cases {machine next : Machine} {step : BuildStep}
    (done : machine.attempt step = .ok next) :
    (∃ c accepting, step = .node (Label.ofChar c) accepting ∧ Label.IsLegal c ∧
      c ∉ machine.nodes ∧
      next = if accepting then (machine.insertNode c).insertAccepting c else machine.insertNode c) ∨
    (∃ edge, step = .edge (Label.ofChar edge.source) (Label.ofChar edge.symbol)
        (Label.ofChar edge.target) ∧
      edge.source ∈ machine.nodes ∧ edge.symbol ∈ machine.symbols ∧ edge.target ∈ machine.nodes ∧
      next = machine.insertEdge edge) ∨
    ∃ c, step = .accept (Label.ofChar c) ∧ c ∈ machine.nodes ∧
      next = machine.insertAccepting c := by
  cases step with
  | node name accepting =>
    refine Or.inl ?_
    rw [attempt_node] at done
    cases checked : machine.checkNewNode name with
    | error why => simp [checked, Except.map] at done
    | ok c =>
      obtain ⟨rfl, legal, fresh⟩ := (checkNewNode_eq_ok_iff machine name c).1 checked
      rw [checked] at done
      cases done
      exact ⟨c, accepting, rfl, legal, fresh, rfl⟩
  | edge source symbol target =>
    refine Or.inr (Or.inl ?_)
    rw [attempt_edge] at done
    cases checked : machine.checkEdge source symbol target with
    | error why => simp [checked, Except.map] at done
    | ok edge =>
      obtain ⟨foundSource, foundTarget, foundSymbol⟩ :=
        (checkEdge_eq_ok_iff machine source symbol target edge).1 checked
      obtain ⟨rfl, knownSource⟩ := (findNode_eq_ok_iff machine source edge.source).1 foundSource
      obtain ⟨rfl, knownTarget⟩ := (findNode_eq_ok_iff machine target edge.target).1 foundTarget
      obtain ⟨rfl, knownSymbol, _⟩ :=
        (findSymbol_eq_ok_iff machine symbol edge.symbol).1 foundSymbol
      rw [checked] at done
      cases done
      exact ⟨edge, rfl, knownSource, knownSymbol, knownTarget, rfl⟩
  | accept name =>
    refine Or.inr (Or.inr ?_)
    rw [attempt_accept] at done
    cases found : machine.findNode name with
    | error why => simp [found, Except.map] at done
    | ok c =>
      obtain ⟨rfl, known⟩ := (findNode_eq_ok_iff machine name c).1 found
      rw [found] at done
      cases done
      exact ⟨c, rfl, known, rfl⟩

namespace IsProper

variable {machine : Machine}

theorem exists_initial (proper : machine.IsProper) (built : machine.nodes ≠ []) :
    ∃ start ∈ machine.nodes, machine.initial = some start := by
  cases starts : machine.initial with
  | none => exact absurd (proper.initial_eq_none_iff.1 starts) built
  | some start => exact ⟨start, proper.initial_mem start starts, rfl⟩

theorem insertNode (proper : machine.IsProper) (c : Char) : (machine.insertNode c).IsProper where
  distinct := proper.distinct
  ascending := Ascending.isAscending_insert charBefore_strictOrder c proper.ascending
  initial_eq_none_iff := by
    have member : c ∈ (machine.insertNode c).nodes := (mem_nodes_insertNode machine c c).2 (Or.inl rfl)
    refine iff_of_false ?_ (List.ne_nil_of_mem member)
    simp [Machine.insertNode]
  initial_mem start isInitial := by
    rw [mem_nodes_insertNode]
    cases old : machine.initial with
    | none =>
      -- The first node of all becomes the initial one.
      have isNew : c = start := by simpa [Machine.insertNode, old] using isInitial
      exact Or.inl isNew.symm
    | some first =>
      have isOld : first = start := by simpa [Machine.insertNode, old] using isInitial
      exact Or.inr (isOld ▸ proper.initial_mem first old)
  accepting_mem node accepting := (mem_nodes_insertNode machine c node).2
    (Or.inr (proper.accepting_mem node accepting))
  edges_mem edge member := by
    obtain ⟨source, symbol, target⟩ := proper.edges_mem edge member
    rw [mem_nodes_insertNode, mem_nodes_insertNode]
    exact ⟨Or.inr source, symbol, Or.inr target⟩
  single := proper.single

theorem insertAccepting (proper : machine.IsProper) {c : Char} (known : c ∈ machine.nodes) :
    (machine.insertAccepting c).IsProper where
  distinct := proper.distinct
  ascending := proper.ascending
  initial_eq_none_iff := proper.initial_eq_none_iff
  initial_mem := proper.initial_mem
  accepting_mem node accepting := by
    rcases (mem_accepting_insertAccepting machine c node).1 accepting with rfl | old
    · exact known
    · exact proper.accepting_mem node old
  edges_mem := proper.edges_mem
  single := proper.single

theorem insertEdge (proper : machine.IsProper) {edge : Edge}
    (known : edge.source ∈ machine.nodes ∧ edge.symbol ∈ machine.symbols ∧
      edge.target ∈ machine.nodes) : (machine.insertEdge edge).IsProper where
  distinct := proper.distinct
  ascending := proper.ascending
  initial_eq_none_iff := proper.initial_eq_none_iff
  initial_mem := proper.initial_mem
  accepting_mem := proper.accepting_mem
  edges_mem other member := by
    rcases (mem_edges_insertEdge machine edge other).1 member with rfl | ⟨old, _⟩
    · exact known
    · exact proper.edges_mem other old
  single isDeterministic first inFirst second inSecond sameSource sameSymbol := by
    -- Two edges can only agree on source and symbol when both are new or both are old.
    rcases (mem_edges_insertEdge machine edge first).1 inFirst with rfl | ⟨oldFirst, apartFirst⟩
    · rcases (mem_edges_insertEdge machine first second).1 inSecond with rfl | ⟨_, apart⟩
      · rfl
      · exact absurd ⟨sameSource.symm, sameSymbol.symm⟩ (apart isDeterministic)
    · rcases (mem_edges_insertEdge machine edge second).1 inSecond with rfl | ⟨oldSecond, _⟩
      · exact absurd ⟨sameSource, sameSymbol⟩ (apartFirst isDeterministic)
      · exact proper.single isDeterministic first oldFirst second oldSecond sameSource sameSymbol

theorem attempt (proper : machine.IsProper) {next : Machine} {step : BuildStep}
    (done : machine.attempt step = .ok next) : next.IsProper := by
  rcases attempt_cases done with
    ⟨c, accepting, _, _, _, rfl⟩ | ⟨edge, _, source, symbol, target, rfl⟩ | ⟨c, _, known, rfl⟩
  · split
    · exact (proper.insertNode c).insertAccepting ((mem_nodes_insertNode machine c c).2 (Or.inl rfl))
    · exact proper.insertNode c
  · exact proper.insertEdge ⟨source, symbol, target⟩
  · exact proper.insertAccepting known

theorem build (proper : machine.IsProper) (steps : List BuildStep) :
    (machine.build steps).IsProper :=
  build_keeps (fun kept done => kept.attempt done) steps proper

end IsProper

theorem hasRepetition_eq_false_iff (symbols : List Char) :
    hasRepetition symbols = false ↔ symbols.Nodup := by
  induction symbols with
  | nil => simp [hasRepetition]
  | cons c rest ih => simp [hasRepetition, ih]

theorem create_cases {kind : Kind} {alphabet : Option (List Label)} {machine : Machine}
    (created : create kind alphabet = .ok machine) :
    ∃ symbols, machine = empty kind symbols ∧ symbols.Nodup ∧
      ¬ (kind = .deterministic ∧ emptyMove ∈ symbols) := by
  unfold create at created
  split at created
  · cases created
  · split at created
    · cases created
    · rename_i symbols checked
      split at created
      · cases created
      · rename_i repeats
        split at created
        · cases created
        · rename_i allowed
          cases created
          rw [Bool.not_eq_true, hasRepetition_eq_false_iff] at repeats
          exact ⟨symbols, rfl, repeats, by simpa using allowed⟩

theorem isProper_empty (kind : Kind) {alphabet : List Char} (distinct : alphabet.Nodup) :
    (empty kind alphabet).IsProper := by
  constructor <;> simp [empty, distinct, Ascending.IsAscending]

theorem isProper_of_create {kind : Kind} {alphabet : Option (List Label)} {machine : Machine}
    (created : create kind alphabet = .ok machine) : machine.IsProper := by
  obtain ⟨symbols, rfl, distinct, _⟩ := create_cases created
  exact isProper_empty kind distinct

theorem kind_attempt {machine next : Machine} {step : BuildStep}
    (done : machine.attempt step = .ok next) : next.kind = machine.kind := by
  rcases attempt_cases done with
    ⟨_, accepting, _, _, _, rfl⟩ | ⟨_, _, _, _, _, rfl⟩ | ⟨_, _, _, rfl⟩
  · split <;> rfl
  · rfl
  · rfl

theorem kind_build (machine : Machine) (steps : List BuildStep) :
    (machine.build steps).kind = machine.kind :=
  build_keeps (P := fun built => built.kind = machine.kind)
    (fun same done => (kind_attempt done).trans same) steps rfl

theorem kind_of_create {kind : Kind} {alphabet : Option (List Label)} {machine : Machine}
    (created : create kind alphabet = .ok machine) : machine.kind = kind := by
  obtain ⟨symbols, rfl, _⟩ := create_cases created
  rfl

end Machine

end AutomataShell
