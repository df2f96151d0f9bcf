import Mathlib.Data.List.Nodup
import Mathlib.Logic.Relation
import AutomataShell.Machine.Nondeterministic
import AutomataShell.Proofs.Machine.Graph

/-! The closure under empty moves by a stack of names whose moves are still to be followed. In which
order the given names and the targets of a node come is left open: every such traversal ends, and all
of them find the same nodes, as the one that computes the closure does. -/

set_option autoImplicit false

namespace AutomataShell

namespace Traversal

/-- The name on top of the stack is taken off, and the targets of its node are entered in some order. -/
inductive Step (machine : Machine) : Traversal → Traversal → Prop where
  | follow {found rest : List Label} {name : Label} {node : Char} {order : List Char}
      (isNode : machine.findNode name = .ok node)
      (targets : order.Perm (machine.targets node emptyMove)) :
      Step machine ⟨found, name :: rest⟩ (enterAll ⟨found, rest⟩ order)

inductive Ends (machine : Machine) : Traversal → Except MachineError (List Label) → Prop where
  | finished {found : List Label} : Ends machine ⟨found, []⟩ (.ok found)
  | unknown {found rest : List Label} {name : Label} {why : MachineError}
      (foreign : machine.findNode name = .error why) : Ends machine ⟨found, name :: rest⟩ (.error why)

/-- A traversal begins with the given names in some order, each of them once. -/
def Begins (names : List Label) (traversal : Traversal) : Prop :=
  traversal.stack.Nodup ∧ (∀ name, name ∈ traversal.stack ↔ name ∈ names) ∧
    traversal.found = traversal.stack

/-- What a traversal from the given names may come to. -/
def Outcome (machine : Machine) (names : List Label) (outcome : Except MachineError (List Label)) : Prop :=
  ∃ first last, Begins names first ∧ Relation.ReflTransGen (Step machine) first last ∧
    Ends machine last outcome

theorem ofChar_injective : Function.Injective Label.ofChar := by
  intro first second same
  simpa [Label.ofChar] using same

theorem mem_found_enterAll (traversal : Traversal) (nodes : List Char) (name : Label) :
    name ∈ (traversal.enterAll nodes).found ↔
      name ∈ traversal.found ∨ name ∈ nodes.map Label.ofChar := by
  induction nodes generalizing traversal with
  | nil => simp [enterAll]
  | cons node rest ih =>
    have onward : traversal.enterAll (node :: rest) = (traversal.enter node).enterAll rest := rfl
    have entered : name ∈ (traversal.enter node).found ↔
        name ∈ traversal.found ∨ name = Label.ofChar node := by
      unfold enter
      split
      · rename_i known
        constructor
        · exact Or.inl
        · rintro (old | rfl)
          · exact old
          · exact List.contains_iff_mem.1 known
      · rw [List.mem_cons, or_comm]
    rw [onward, ih, entered, List.map_cons, List.mem_cons, or_assoc]

theorem mem_stack_enterAll (traversal : Traversal) (nodes : List Char) (name : Label) :
    name ∈ (traversal.enterAll nodes).stack ↔
      name ∈ traversal.stack ∨ name ∉ traversal.found ∧ name ∈ nodes.map Label.ofChar := by
  induction nodes generalizing traversal with
  | nil => simp [enterAll]
  | cons node rest ih =>
    have onward : traversal.enterAll (node :: rest) = (traversal.enter node).enterAll rest := rfl
    rw [onward, ih, List.map_cons, List.mem_cons]
    unfold enter
    split
    · rename_i known
      by_cases same : name = Label.ofChar node
      · simp [same, List.contains_iff_mem.1 known]
      · simp [same]
    · rename_i fresh
      rw [List.contains_iff_mem] at fresh
      by_cases same : name = Label.ofChar node
      · simp [same, fresh]
      · simp [same]

/-- A name that is off the stack had been found before. -/
theorem mem_found_of_notMem_stack {traversal : Traversal} {nodes : List Char} {name : Label}
    (isFound : name ∈ (traversal.enterAll nodes).found)
    (passed : name ∉ (traversal.enterAll nodes).stack) :
    name ∈ traversal.found ∧ name ∉ traversal.stack := by
  rw [mem_stack_enterAll, not_or] at passed
  refine ⟨?_, passed.1⟩
  by_contra fresh
  have new := ((mem_found_enterAll traversal nodes name).1 isFound).resolve_left fresh
  exact passed.2 ⟨fresh, new⟩

theorem nodup_eraseDups : ∀ names : List Label, names.eraseDups.Nodup
  | [] => by simp
  | name :: rest => by
    rw [List.eraseDups_cons, List.nodup_cons]
    exact ⟨by simp, nodup_eraseDups _⟩
termination_by names => names.length
decreasing_by exact Nat.lt_succ_of_le (List.length_filter_le _ rest)

theorem start_begins (names : List Label) : (start names).Begins names :=
  ⟨nodup_eraseDups names, fun _ => List.mem_eraseDups, rfl⟩

variable (machine : Machine)

theorem remaining_lt_of_step {before after : Traversal} (step : before.Step machine after) :
    after.remaining machine < before.remaining machine := by
  cases step with
  | @follow found rest name node order isNode targets =>
    exact remaining_lt_of_follow machine found rest name fun target member =>
      ⟨_, (machine.mem_targets node emptyMove target).1 (targets.mem_iff.1 member), rfl⟩

/-- No traversal goes on for ever. -/
theorem step_wellFounded : WellFounded fun after before => Step machine before after :=
  Subrelation.wf (fun step => remaining_lt_of_step machine step) (measure (remaining machine)).wf

/-- To take the targets of a node in their own order is one way to go on. -/
theorem exists_outcome_explore (traversal : Traversal) :
    ∃ last, Relation.ReflTransGen (Step machine) traversal last ∧
      last.Ends machine (machine.explore traversal) := by
  fun_induction Machine.explore machine traversal with
  | case1 found => exact ⟨_, .refl, .finished⟩
  | case2 found name rest why refused =>
    exact ⟨_, .refl, .unknown ((machine.step_eq_error_iff).1 refused)⟩
  | case3 found name rest nodes followed ih =>
    obtain ⟨node, isNode, rfl⟩ := machine.step_eq_ok_iff.1 followed
    obtain ⟨last, onward, ends⟩ := ih
    exact ⟨last, .head (.follow isNode (List.Perm.refl _)) onward, ends⟩

theorem outcome_explore (names : List Label) :
    Outcome machine names (machine.explore (start names)) := by
  obtain ⟨last, steps, ends⟩ := exists_outcome_explore machine (start names)
  exact ⟨start names, last, start_begins names, steps, ends⟩

end Traversal

namespace Machine

variable {machine : Machine}

/-- Whether empty moves, or none, lead to a node from one of the given names. -/
def ReachedFrom (machine : Machine) (names : List Label) (node : Char) : Prop :=
  ∃ seed, Label.ofChar seed ∈ names ∧
    Relation.ReflTransGen (fun source target => machine.Leads source emptyMove target) seed node

theorem ReachedFrom.of_mem {names : List Label} {node : Char} (given : Label.ofChar node ∈ names) :
    machine.ReachedFrom names node :=
  ⟨node, given, .refl⟩

theorem ReachedFrom.tail {names : List Label} {source target : Char}
    (reached : machine.ReachedFrom names source) (leads : machine.Leads source emptyMove target) :
    machine.ReachedFrom names target := by
  obtain ⟨seed, given, path⟩ := reached
  exact ⟨seed, given, path.tail leads⟩

/-- What is reached from reached nodes is reached. -/
theorem ReachedFrom.of_reached {names others : List Label}
    (reached : ∀ other, Label.ofChar other ∈ others → machine.ReachedFrom names other) {node : Char}
    (onward : machine.ReachedFrom others node) : machine.ReachedFrom names node := by
  obtain ⟨other, given, path⟩ := onward
  obtain ⟨seed, isSeed, before⟩ := reached other given
  exact ⟨seed, isSeed, before.trans path⟩

theorem reachedFrom_append_iff (first second : List Label) (node : Char) :
    machine.ReachedFrom (first ++ second) node ↔
      machine.ReachedFrom first node ∨ machine.ReachedFrom second node := by
  simp only [ReachedFrom, List.mem_append, or_and_right, exists_or]

/-- A label is looked up as a node, or refused with its own text. -/
theorem findNode_cases (machine : Machine) (name : Label) :
    (∃ node ∈ machine.nodes, name = Label.ofChar node ∧ machine.findNode name = .ok node) ∨
      machine.hasNode name = false ∧ machine.findNode name = .error (.unknownNodes [name]) := by
  cases found : machine.findNode name with
  | ok node =>
    obtain ⟨same, known⟩ := (findNode_eq_ok_iff machine name node).1 found
    exact Or.inl ⟨node, known, same, rfl⟩
  | error why =>
    refine Or.inr ⟨by rw [hasNode, found]; rfl, ?_⟩
    unfold findNode at found
    split at found
    · split at found
      · cases found
      · exact found.symm
    · exact found.symm

theorem hasNode_eq_true_iff (machine : Machine) (name : Label) :
    machine.hasNode name = true ↔ ∃ node ∈ machine.nodes, name = Label.ofChar node := by
  constructor
  · intro has
    rcases machine.findNode_cases name with ⟨node, known, same, _⟩ | ⟨lacks, _⟩
    · exact ⟨node, known, same⟩
    · rw [has] at lacks
      cases lacks
  · rintro ⟨node, known, same⟩
    rw [hasNode, (findNode_eq_ok_iff machine name node).2 ⟨same, known⟩]
    rfl

/-- What holds of a traversal from given names at any time. -/
structure Explores (machine : Machine) (names : List Label) (traversal : Traversal) : Prop where
  given : ∀ name ∈ names, name ∈ traversal.found
  reached : ∀ name ∈ traversal.found, name ∈ names ∨
    ∃ node ∈ machine.nodes, name = Label.ofChar node ∧ machine.ReachedFrom names node
  waiting : ∀ name ∈ traversal.stack, name ∈ traversal.found
  followed : ∀ name ∈ traversal.found, name ∉ traversal.stack →
    ∃ node ∈ machine.nodes, name = Label.ofChar node ∧
      ∀ target, machine.Leads node emptyMove target → Label.ofChar target ∈ traversal.found

/-- What is found is given, or reached from what is. -/
theorem Explores.reachedFrom {names : List Label} {traversal : Traversal}
    (explores : machine.Explores names traversal) {node : Char}
    (isFound : Label.ofChar node ∈ traversal.found) : machine.ReachedFrom names node := by
  rcases explores.reached _ isFound with given | ⟨other, _, same, reached⟩
  · exact .of_mem given
  · rwa [Traversal.ofChar_injective same]

/-- What becomes of given names. One that is no node is reported, and only if there is none, all that
empty moves reach from them is found. -/
inductive Closes (machine : Machine) (names : List Label) : Except MachineError (List Label) → Prop where
  | unknown {name : Label} (given : name ∈ names) (foreign : machine.hasNode name = false) :
      Closes machine names (.error (.unknownNodes [name]))
  | reached {found : List Label} (known : ∀ name ∈ names, machine.hasNode name = true)
      (mem_iff : ∀ name, name ∈ found ↔
        ∃ node, name = Label.ofChar node ∧ machine.ReachedFrom names node) :
      Closes machine names (.ok found)

theorem explores_of_begins {names : List Label} {traversal : Traversal}
    (begins : traversal.Begins names) : machine.Explores names traversal := by
  obtain ⟨_, sameNames, same⟩ := begins
  constructor
  · intro name given
    rw [same]
    exact (sameNames name).2 given
  · intro name found
    rw [same] at found
    exact Or.inl ((sameNames name).1 found)
  · intro name waits
    rwa [same]
  · intro name found passed
    rw [same] at found
    exact absurd found passed

/-- If one traversal finds anything, all of them find the same. -/
theorem Closes.agree {names found : List Label} {outcome : Except MachineError (List Label)}
    (first : machine.Closes names (.ok found)) (second : machine.Closes names outcome) :
    ∃ others, outcome = .ok others ∧ ∀ name, name ∈ others ↔ name ∈ found := by
  cases first with
  | reached known mem_found =>
    cases second with
    | unknown given foreign =>
      rw [known _ given] at foreign
      cases foreign
    | @reached others _ mem_others =>
      exact ⟨others, rfl, fun name => (mem_others name).trans (mem_found name).symm⟩

namespace IsProper

theorem mem_nodes_of_leads (proper : machine.IsProper) {source symbol target : Char}
    (leads : machine.Leads source symbol target) : target ∈ machine.nodes :=
  (proper.edges_mem _ ((proper.leads_iff_mem_edges source symbol target).1 leads)).2.2

theorem mem_targets_iff (proper : machine.IsProper) (source symbol target : Char) :
    target ∈ machine.targets source symbol ↔ machine.Leads source symbol target := by
  rw [mem_targets, proper.leads_iff_mem_edges]

theorem explores_of_step (proper : machine.IsProper) {names : List Label} {before after : Traversal}
    (explores : machine.Explores names before) (step : before.Step machine after) :
    machine.Explores names after := by
  cases step with
  | @follow found rest name node order isNode targets =>
    obtain ⟨rfl, known⟩ := (findNode_eq_ok_iff machine name node).1 isNode
    have leads_iff (target : Char) : Label.ofChar target ∈ order.map Label.ofChar ↔
        machine.Leads node emptyMove target := by
      rw [List.mem_map_of_injective Traversal.ofChar_injective, targets.mem_iff, proper.mem_targets_iff]
    have nodeReached : machine.ReachedFrom names node :=
      explores.reachedFrom (explores.waiting _ List.mem_cons_self)
    constructor
    · intro other given
      exact (Traversal.mem_found_enterAll _ _ other).2 (Or.inl (explores.given other given))
    · intro other isFound
      rcases (Traversal.mem_found_enterAll _ _ other).1 isFound with old | new
      · exact explores.reached other old
      · obtain ⟨target, inOrder, rfl⟩ := List.mem_map.1 new
        have leads := (leads_iff target).1 new
        exact Or.inr ⟨target, proper.mem_nodes_of_leads leads, rfl, nodeReached.tail leads⟩
    · intro other waits
      rw [Traversal.mem_found_enterAll]
      rcases (Traversal.mem_stack_enterAll _ _ other).1 waits with old | ⟨_, new⟩
      · exact Or.inl (explores.waiting other (List.mem_cons_of_mem _ old))
      · exact Or.inr new
    · intro other isFound passed
      obtain ⟨old, offStack⟩ := Traversal.mem_found_of_notMem_stack isFound passed
      by_cases same : other = Label.ofChar node
      · refine ⟨node, known, same, fun target leads => ?_⟩
        exact (Traversal.mem_found_enterAll _ _ _).2 (Or.inr ((leads_iff target).2 leads))
      · have passedBefore : other ∉ Label.ofChar node :: rest := by
          simpa [same] using offStack
        obtain ⟨source, isSource, sameName, closed⟩ := explores.followed other old passedBefore
        refine ⟨source, isSource, sameName, fun target leads => ?_⟩
        exact (Traversal.mem_found_enterAll _ _ _).2 (Or.inl (closed target leads))

theorem explores_of_steps (proper : machine.IsProper) {names : List Label} {first last : Traversal}
    (explores : machine.Explores names first)
    (steps : Relation.ReflTransGen (Traversal.Step machine) first last) :
    machine.Explores names last := by
  induction steps with
  | refl => exact explores
  | tail _ step ih => exact proper.explores_of_step ih step

end IsProper

namespace Explores

variable {names : List Label}

/-- With an empty stack, every name that was found is that of a node, and what was found is closed. -/
theorem closes_of_finished {found : List Label} (explores : machine.Explores names ⟨found, []⟩) :
    machine.Closes names (.ok found) := by
  have followed (name : Label) (isFound : name ∈ found) :=
    explores.followed name isFound List.not_mem_nil
  refine .reached (fun name given => ?_) fun name => ⟨fun isFound => ?_, ?_⟩
  · obtain ⟨node, known, same, _⟩ := followed name (explores.given name given)
    exact (machine.hasNode_eq_true_iff name).2 ⟨node, known, same⟩
  · obtain ⟨node, _, rfl, _⟩ := followed name isFound
    exact ⟨node, rfl, explores.reachedFrom isFound⟩
  · rintro ⟨node, rfl, seed, given, path⟩
    induction path with
    | refl => exact explores.given _ given
    | tail _ leads ih =>
      obtain ⟨source, _, same, closed⟩ := followed _ ih
      rw [Traversal.ofChar_injective same] at leads
      exact closed _ leads

/-- Whatever is found by a move is a node, so a name that is not was given. -/
theorem closes_of_unknown {found rest : List Label} {name : Label} {why : MachineError}
    (explores : machine.Explores names ⟨found, name :: rest⟩)
    (refused : machine.findNode name = .error why) : machine.Closes names (.error why) := by
  rcases machine.findNode_cases name with ⟨_, _, _, isNode⟩ | ⟨foreign, same⟩
  · rw [isNode] at refused
    cases refused
  · rw [refused] at same
    cases same
    refine .unknown ?_ foreign
    rcases explores.reached name (explores.waiting name List.mem_cons_self) with
      given | ⟨node, known, rfl, _⟩
    · exact given
    · rw [(machine.hasNode_eq_true_iff _).2 ⟨node, known, rfl⟩] at foreign
      cases foreign

end Explores

/-- In whatever order a traversal goes, it comes to what becomes of its names. -/
theorem IsProper.closes_of_outcome (proper : machine.IsProper) {names : List Label}
    {outcome : Except MachineError (List Label)} (comes : Traversal.Outcome machine names outcome) :
    machine.Closes names outcome := by
  obtain ⟨first, last, begins, steps, ends⟩ := comes
  have explores := proper.explores_of_steps (explores_of_begins begins) steps
  cases ends with
  | finished => exact explores.closes_of_finished
  | unknown foreign => exact explores.closes_of_unknown foreign

theorem mapM_findNode_cases (machine : Machine) (names : List Label) :
    (∃ seeds, names = seeds.map Label.ofChar ∧ (∀ seed ∈ seeds, seed ∈ machine.nodes) ∧
      names.mapM machine.findNode = .ok seeds) ∨
    ∃ name ∈ names, machine.hasNode name = false ∧
      names.mapM machine.findNode = .error (.unknownNodes [name]) := by
  induction names with
  | nil => exact Or.inl ⟨[], rfl, by simp, rfl⟩
  | cons name rest ih =>
    rw [List.mapM_cons]
    rcases machine.findNode_cases name with ⟨node, known, rfl, isNode⟩ | ⟨foreign, refused⟩
    · rw [isNode]
      rcases ih with ⟨seeds, rfl, areNodes, found⟩ | ⟨other, given, foreign, refused⟩
      · refine Or.inl ⟨node :: seeds, rfl, List.forall_mem_cons.2 ⟨known, areNodes⟩, ?_⟩
        rw [found]
        rfl
      · refine Or.inr ⟨other, List.mem_cons_of_mem _ given, foreign, ?_⟩
        rw [refused]
        rfl
    · refine Or.inr ⟨name, List.mem_cons_self, foreign, ?_⟩
      rw [refused]
      rfl

theorem IsProper.hasNode_of_reachedFrom (proper : machine.IsProper) {names : List Label}
    (known : ∀ name ∈ names, machine.hasNode name = true) {node : Char}
    (reached : machine.ReachedFrom names node) : machine.hasNode (Label.ofChar node) = true := by
  obtain ⟨seed, given, path⟩ := reached
  cases path with
  | refl => exact known _ given
  | tail _ leads =>
    exact (machine.hasNode_eq_true_iff _).2 ⟨node, proper.mem_nodes_of_leads leads, rfl⟩

/-- The closure that is computed, or one of the names that is no node. -/
theorem IsProper.closureOf_cases (proper : machine.IsProper) (names : List Label) :
    (∃ nodes, machine.closureOf names = .ok nodes ∧
      (∀ name ∈ names, machine.hasNode name = true) ∧ Ascending.IsAscending charBefore nodes ∧
        ∀ node, node ∈ nodes ↔ machine.ReachedFrom names node) ∨
    ∃ name ∈ names, machine.hasNode name = false ∧
      machine.closureOf names = .error (.unknownNodes [name]) := by
  have closes := proper.closes_of_outcome (Traversal.outcome_explore machine names)
  unfold closureOf
  generalize machine.explore (.start names) = outcome at closes ⊢
  cases closes with
  | @unknown name given foreign => exact Or.inr ⟨name, given, foreign, rfl⟩
  | @reached found known mem_found =>
    left
    rcases machine.mapM_findNode_cases found with
      ⟨nodes, rfl, areNodes, looked⟩ | ⟨name, isFound, foreign, _⟩
    · refine ⟨_, by simp only [looked]; rfl, known,
        Ascending.isAscending_ofList charBefore_strictOrder nodes, fun node => ?_⟩
      rw [Ascending.mem_ofList charBefore_strictOrder,
        ← List.mem_map_of_injective Traversal.ofChar_injective, mem_found]
      constructor
      · rintro ⟨other, same, reached⟩
        rwa [Traversal.ofChar_injective same]
      · exact fun reached => ⟨node, rfl, reached⟩
    · -- All that is found is reached from nodes, so it is a node.
      obtain ⟨node, rfl, reached⟩ := (mem_found name).1 isFound
      rw [proper.hasNode_of_reachedFrom known reached] at foreign
      cases foreign

theorem IsProper.closureOf_eq_ok_iff (proper : machine.IsProper) (names : List Label)
    (nodes : List Char) :
    machine.closureOf names = .ok nodes ↔
      (∀ name ∈ names, machine.hasNode name = true) ∧ Ascending.IsAscending charBefore nodes ∧
        ∀ node, node ∈ nodes ↔ machine.ReachedFrom names node := by
  rcases proper.closureOf_cases names with
    ⟨closed, found, known, ascending, mem_iff⟩ | ⟨name, given, foreign, refused⟩
  · rw [found, Except.ok.injEq]
    constructor
    · rintro rfl
      exact ⟨known, ascending, mem_iff⟩
    · rintro ⟨_, ascendingToo, mem_iff_too⟩
      exact Ascending.eq_of_isAscending charBefore_strictOrder ascending ascendingToo
        fun node => (mem_iff node).trans (mem_iff_too node).symm
  · rw [refused]
    refine iff_of_false (by simp) ?_
    rintro ⟨known, _⟩
    rw [known name given] at foreign
    cases foreign

/-- The closure that is computed is one of those that a traversal may find. -/
theorem IsProper.closes_closureOf (proper : machine.IsProper) (names : List Label) :
    machine.Closes names ((machine.closureOf names).map (List.map Label.ofChar)) := by
  rcases proper.closureOf_cases names with
    ⟨nodes, found, known, _, mem_iff⟩ | ⟨name, given, foreign, refused⟩
  · rw [found]
    refine .reached known fun name => ?_
    simp only [List.mem_map, mem_iff, and_comm, eq_comm]
  · rw [refused]
    exact .unknown given foreign

/-- The laws of a closure that refuses names of no node. Nothing but the set of the names counts. -/
structure IsClosureOperator (close : List Label → Except MachineError (List Char)) : Prop where
  extensive : ∀ {names nodes}, close names = .ok nodes → ∀ name ∈ names, name ∈ nodes.map Label.ofChar
  idempotent : ∀ {names nodes}, close names = .ok nodes → close (nodes.map Label.ofChar) = .ok nodes
  monotone : ∀ {names others larger}, (∀ name ∈ names, name ∈ others) → close others = .ok larger →
    ∃ nodes, close names = .ok nodes ∧ ∀ node ∈ nodes, node ∈ larger
  union : ∀ {first second ofFirst ofSecond}, close first = .ok ofFirst → close second = .ok ofSecond →
    ∃ nodes, close (first ++ second) = .ok nodes ∧
      ∀ node, node ∈ nodes ↔ node ∈ ofFirst ∨ node ∈ ofSecond
  unordered : ∀ {names others nodes}, (∀ name, name ∈ names ↔ name ∈ others) →
    close names = .ok nodes → close others = .ok nodes

theorem IsProper.exists_closureOf (proper : machine.IsProper) {names : List Label}
    (known : ∀ name ∈ names, machine.hasNode name = true) :
    ∃ nodes, machine.closureOf names = .ok nodes ∧
      ∀ node, node ∈ nodes ↔ machine.ReachedFrom names node := by
  rcases proper.closureOf_cases names with ⟨nodes, found, _, _, mem_iff⟩ | ⟨name, given, foreign, _⟩
  · exact ⟨nodes, found, mem_iff⟩
  · rw [known name given] at foreign
    cases foreign

theorem IsProper.isClosureOperator (proper : machine.IsProper) :
    IsClosureOperator machine.closureOf where
  extensive {names nodes} found name given := by
    obtain ⟨known, _, mem_iff⟩ := (proper.closureOf_eq_ok_iff names nodes).1 found
    obtain ⟨node, _, rfl⟩ := (machine.hasNode_eq_true_iff name).1 (known name given)
    exact List.mem_map_of_mem ((mem_iff node).2 (.of_mem given))
  idempotent {names nodes} found := by
    obtain ⟨known, ascending, mem_iff⟩ := (proper.closureOf_eq_ok_iff names nodes).1 found
    refine (proper.closureOf_eq_ok_iff _ nodes).2 ⟨fun name given => ?_, ascending, fun node => ?_⟩
    · obtain ⟨node, member, rfl⟩ := List.mem_map.1 given
      exact proper.hasNode_of_reachedFrom known ((mem_iff node).1 member)
    · refine ⟨fun member => .of_mem (List.mem_map_of_mem member), fun reached => (mem_iff node).2 ?_⟩
      refine .of_reached (fun other given => ?_) reached
      exact (mem_iff other).1 ((List.mem_map_of_injective Traversal.ofChar_injective).1 given)
  monotone {names others larger} within found := by
    obtain ⟨known, _, mem_iff⟩ := (proper.closureOf_eq_ok_iff others larger).1 found
    obtain ⟨nodes, foundToo, mem_iff_too⟩ :=
      proper.exists_closureOf fun name given => known name (within name given)
    refine ⟨nodes, foundToo, fun node member => (mem_iff node).2 ?_⟩
    exact .of_reached (fun other given => .of_mem (within _ given)) ((mem_iff_too node).1 member)
  union {first second ofFirst ofSecond} foundFirst foundSecond := by
    obtain ⟨knownFirst, _, mem_first⟩ := (proper.closureOf_eq_ok_iff first ofFirst).1 foundFirst
    obtain ⟨knownSecond, _, mem_second⟩ := (proper.closureOf_eq_ok_iff second ofSecond).1 foundSecond
    obtain ⟨nodes, found, mem_iff⟩ :=
      proper.exists_closureOf (List.forall_mem_append.2 ⟨knownFirst, knownSecond⟩)
    refine ⟨nodes, found, fun node => ?_⟩
    rw [mem_iff, mem_first, mem_second, reachedFrom_append_iff]
  unordered {names others nodes} same found := by
    obtain ⟨known, ascending, mem_iff⟩ := (proper.closureOf_eq_ok_iff names nodes).1 found
    refine (proper.closureOf_eq_ok_iff others nodes).2
      ⟨fun name given => known name ((same name).2 given), ascending, fun node => ?_⟩
    simp only [mem_iff, ReachedFrom, same]

/-- In a nondeterministic machine every traversal of the empty moves ends, in whatever order it takes
the given names and the targets of a node. It reports a name that is no node, or finds what empty moves
reach from the names, as the closure that is computed does. -/
theorem closes_of_traversal {alphabet : Option (List Label)} {fresh : Machine}
    (created : create .nondeterministic alphabet = .ok fresh) (steps : List BuildStep) :
    let machine := fresh.build steps
    (WellFounded fun after before => Traversal.Step machine before after) ∧
      (∀ traversal, ∃ last outcome, Relation.ReflTransGen (Traversal.Step machine) traversal last ∧
        last.Ends machine outcome) ∧
      (∀ names, (∃ traversal : Traversal, traversal.Begins names) ∧
        (∀ outcome, Traversal.Outcome machine names outcome → machine.Closes names outcome) ∧
          machine.Closes names ((machine.closureOf names).map (List.map Label.ofChar))) ∧
      IsClosureOperator machine.closureOf := by
  intro machine
  have proper : machine.IsProper := (isProper_of_create created).build steps
  refine ⟨Traversal.step_wellFounded machine, fun traversal => ?_, fun names => ⟨?_, ?_, ?_⟩,
    proper.isClosureOperator⟩
  · obtain ⟨last, steps, ends⟩ := Traversal.exists_outcome_explore machine traversal
    exact ⟨last, _, steps, ends⟩
  · exact ⟨_, Traversal.start_begins names⟩
  · exact fun _ => proper.closes_of_outcome
  · exact proper.closes_closureOf names

/-- Empty moves lead around a circle, and out of it to a node from which a letter leads back. -/
def stepsAround : List BuildStep :=
  [.node (Label.ofChar 'x') false, .node (Label.ofChar 'y') false, .node (Label.ofChar 'z') true,
    .node (Label.ofChar 'w') false,
    .edge (Label.ofChar 'x') (Label.ofChar 'e') (Label.ofChar 'y'),
    .edge (Label.ofChar 'y') (Label.ofChar 'e') (Label.ofChar 'x'),
    .edge (Label.ofChar 'y') (Label.ofChar 'e') (Label.ofChar 'z'),
    .edge (Label.ofChar 'z') (Label.ofChar 'a') (Label.ofChar 'w')]

/-- A name that is given twice makes no difference, and one that is no node is reported. -/
theorem closes_stepsAround :
    let machine := (empty .nondeterministic ['a']).build stepsAround
    create .nondeterministic (some [Label.ofChar 'a']) = .ok (empty .nondeterministic ['a']) ∧
      (∀ outcome, Traversal.Outcome machine [Label.ofChar 'y', Label.ofChar 'y'] outcome →
        ∃ found, outcome = .ok found ∧
          ∀ name, name ∈ found ↔ name ∈ [Label.ofChar 'x', Label.ofChar 'y', Label.ofChar 'z']) ∧
      machine.closureOf [Label.ofChar 'x', none] = .error (.unknownNodes [none]) := by
  intro machine
  have created : create .nondeterministic (some [Label.ofChar 'a']) =
      .ok (empty .nondeterministic ['a']) := by
    decide
  obtain ⟨_, _, closes, _⟩ := closes_of_traversal created stepsAround
  obtain ⟨_, ofTraversal, computed⟩ := closes [Label.ofChar 'y', Label.ofChar 'y']
  have reached : machine.closureOf [Label.ofChar 'y', Label.ofChar 'y'] = .ok ['x', 'y', 'z'] := by
    decide +kernel
  rw [reached] at computed
  exact ⟨created, fun outcome comes => computed.agree (ofTraversal outcome comes), by decide +kernel⟩

end Machine

end AutomataShell
