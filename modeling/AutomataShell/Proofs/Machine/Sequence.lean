import AutomataShell.Proofs.Machine.Growth
import AutomataShell.Session.Edit

/-! Steps one after the other, none of which may be refused. Names and arrows that are checked as a
whole before anything is changed come to the same: what holds of the machine as it stands still holds
when their turn comes. So once the checks are passed no call fails, and no machine is left half
changed. -/

set_option autoImplicit false

namespace AutomataShell

section

variable {Reason Other α : Type} (change : Reason → Other)

@[simp]
theorem mapError_ok (answer : α) : (Except.ok answer).mapError change = .ok answer :=
  rfl

@[simp]
theorem mapError_error (why : Reason) :
    (Except.error why : Except Reason α).mapError change = .error (change why) :=
  rfl

end

namespace Machine

/-- The machine after all of some steps. The first one that is refused ends them. -/
def attemptAll (machine : Machine) (steps : List BuildStep) : Except MachineError Machine :=
  steps.foldlM attempt machine

variable {machine last : Machine}

theorem attemptAll_cons_eq_ok_iff {step : BuildStep} {rest : List BuildStep} :
    machine.attemptAll (step :: rest) = .ok last ↔
      ∃ next, machine.attempt step = .ok next ∧ next.attemptAll rest = .ok last := by
  rw [attemptAll, List.foldlM_cons]
  cases machine.attempt step with
  | error why => simp [bind, Except.bind]
  | ok next => simp [bind, Except.bind, attemptAll]

/-- What each step that is carried out keeps, all of them keep. -/
theorem attemptAll_keeps {P : Machine → Prop}
    (kept : ∀ {machine next step}, P machine → machine.attempt step = .ok next → P next)
    {steps : List BuildStep} (holds : P machine) (done : machine.attemptAll steps = .ok last) :
    P last := by
  induction steps generalizing machine with
  | nil =>
    cases done
    exact holds
  | cons step rest ih =>
    obtain ⟨next, first, others⟩ := attemptAll_cons_eq_ok_iff.1 done
    exact ih (kept holds first) others

/-- The calls on a machine that some steps are. -/
def calls (steps : List BuildStep) : List (Machine → Called MachineError Unit) :=
  steps.map fun step machine => machine.call step

theorem done_callAll (machine : Machine) (steps : List BuildStep) :
    (machine.callAll (calls steps)).done = machine.attemptAll steps := by
  induction steps generalizing machine with
  | nil => rfl
  | cons step rest ih =>
    have others := ih (machine.call step).2
    simp only [calls, attemptAll, List.map_cons, List.foldlM_cons, callAll, attempt] at others ⊢
    generalize machine.call step = called at others ⊢
    rcases called with ⟨_ | ⟨⟨⟩⟩, left⟩
    · rfl
    · exact others

theorem attempt_node_eq_ok_iff (name : Char) :
    machine.attempt (.node (Label.ofChar name) false) = .ok last ↔
      (Label.IsLegal name ∧ name ∉ machine.nodes) ∧ last = machine.insertNode name := by
  constructor
  · intro done
    rcases attempt_cases done with
      ⟨_, _, same, legal, fresh, rfl⟩ | ⟨_, same, _⟩ | ⟨_, same, _⟩ <;> cases same
    exact ⟨⟨legal, fresh⟩, rfl⟩
  · rintro ⟨⟨legal, fresh⟩, rfl⟩
    rw [attempt_node, (checkNewNode_eq_ok_iff _ _ name).2 ⟨rfl, legal, fresh⟩]
    rfl

theorem attempt_accept_eq_ok_iff (name : Char) :
    machine.attempt (.accept (Label.ofChar name)) = .ok last ↔
      name ∈ machine.nodes ∧ last = machine.insertAccepting name := by
  constructor
  · intro done
    rcases attempt_cases done with
      ⟨_, _, same, _⟩ | ⟨_, same, _⟩ | ⟨_, same, known, rfl⟩ <;> cases same
    exact ⟨known, rfl⟩
  · rintro ⟨known, rfl⟩
    rw [attempt_accept, (findNode_eq_ok_iff _ _ name).2 ⟨rfl, known⟩]
    rfl

/-- New names are in order when each of them could be added by itself and none is listed twice. -/
theorem checkNewNames_eq_ok_iff (listed names : List Char) :
    machine.checkNewNames listed names = .ok () ↔
      (∀ name ∈ names, Label.IsLegal name ∧ name ∉ machine.nodes ∧ name ∉ listed) ∧
        names.Nodup := by
  induction names generalizing listed with
  | nil => simp [checkNewNames]
  | cons name rest ih =>
    unfold checkNewNames
    cases checked : machine.checkNewNode (Label.ofChar name) with
    | error why =>
      simp only [reduceCtorEq, false_iff]
      rintro ⟨allowed, _⟩
      obtain ⟨legal, fresh, _⟩ := allowed name List.mem_cons_self
      rw [(checkNewNode_eq_ok_iff _ _ name).2 ⟨rfl, legal, fresh⟩] at checked
      cases checked
    | ok c =>
      obtain ⟨same, legal, fresh⟩ := (checkNewNode_eq_ok_iff _ _ c).1 checked
      cases same
      by_cases known : name ∈ listed
      · simp only [List.contains_iff_mem, known, if_true, reduceCtorEq, false_iff]
        rintro ⟨allowed, _⟩
        exact (allowed name List.mem_cons_self).2.2 known
      · simp only [List.contains_iff_mem, known, if_false, ih]
        constructor
        · rintro ⟨allowed, distinct⟩
          refine ⟨?_, List.nodup_cons.2 ⟨?_, distinct⟩⟩
          · intro other member
            rcases List.mem_cons.1 member with rfl | inRest
            · exact ⟨legal, fresh, known⟩
            · obtain ⟨legalOther, freshOther, unlisted⟩ := allowed other inRest
              exact ⟨legalOther, freshOther, fun inListed => unlisted (List.mem_cons_of_mem name inListed)⟩
          · exact fun inRest => (allowed name inRest).2.2 List.mem_cons_self
        · rintro ⟨allowed, distinct⟩
          obtain ⟨unrepeated, distinctRest⟩ := List.nodup_cons.1 distinct
          refine ⟨fun other inRest => ?_, distinctRest⟩
          obtain ⟨legalOther, freshOther, unlisted⟩ := allowed other (List.mem_cons_of_mem name inRest)
          refine ⟨legalOther, freshOther, fun inListed => ?_⟩
          rcases List.mem_cons.1 inListed with rfl | inOld
          · exact unrepeated inRest
          · exact unlisted inOld

/-- A name that the machine takes keeps only itself from being added again. -/
theorem attemptAll_nodes_eq_ok_iff (names : List Char) :
    machine.attemptAll (names.map fun name => .node (Label.ofChar name) false) = .ok last ↔
      ((∀ name ∈ names, Label.IsLegal name ∧ name ∉ machine.nodes) ∧ names.Nodup) ∧
        last = names.foldl insertNode machine := by
  induction names generalizing machine with
  | nil => simp [attemptAll, pure, Except.pure, eq_comm]
  | cons name rest ih =>
    rw [List.map_cons, attemptAll_cons_eq_ok_iff, List.foldl_cons, List.nodup_cons,
      List.forall_mem_cons]
    constructor
    · rintro ⟨next, first, others⟩
      obtain ⟨allowed, rfl⟩ := (attempt_node_eq_ok_iff name).1 first
      obtain ⟨⟨allowedRest, distinct⟩, same⟩ := ih.1 others
      simp only [mem_nodes_insertNode, not_or] at allowedRest
      exact ⟨⟨⟨allowed, fun other member => ⟨(allowedRest other member).1, (allowedRest other member).2.2⟩⟩,
        fun member => (allowedRest name member).2.1 rfl, distinct⟩, same⟩
    · rintro ⟨⟨⟨allowed, allowedRest⟩, unrepeated, distinct⟩, same⟩
      refine ⟨_, (attempt_node_eq_ok_iff name).2 ⟨allowed, rfl⟩, ih.2 ⟨⟨fun other member => ?_, distinct⟩, same⟩⟩
      rw [mem_nodes_insertNode, not_or]
      exact ⟨(allowedRest other member).1, fun isName => unrepeated (isName ▸ member),
        (allowedRest other member).2⟩

theorem attemptAll_accepts_eq_ok_iff (names : List Char) :
    machine.attemptAll (names.map fun name => .accept (Label.ofChar name)) = .ok last ↔
      (∀ name ∈ names, name ∈ machine.nodes) ∧ last = names.foldl insertAccepting machine := by
  induction names generalizing machine with
  | nil => simp [attemptAll, pure, Except.pure, eq_comm]
  | cons name rest ih =>
    rw [List.map_cons, attemptAll_cons_eq_ok_iff, List.foldl_cons, List.forall_mem_cons, and_assoc]
    constructor
    · rintro ⟨next, first, others⟩
      obtain ⟨known, rfl⟩ := (attempt_accept_eq_ok_iff name).1 first
      exact ⟨known, ih.1 others⟩
    · rintro ⟨known, others⟩
      exact ⟨_, (attempt_accept_eq_ok_iff name).2 ⟨known, rfl⟩, ih.2 others⟩

/-- Drawing an edge changes nothing of what another edge is checked against. -/
theorem checkArrows_insertEdge (edge : Edge) (source : Char) (arrows : List (Char × Char)) :
    (machine.insertEdge edge).checkArrows source arrows = machine.checkArrows source arrows := by
  induction arrows with
  | nil => rfl
  | cons arrow rest ih =>
    unfold checkArrows
    rw [ih]
    rfl

/-- Arrows fail at the same one and for the same reason, whether they are checked all at once or
drawn one by one. -/
theorem checkArrows_eq_attemptAll (source : Char) (arrows : List (Char × Char)) :
    machine.checkArrows source arrows = (machine.attemptAll (arrows.map fun arrow =>
      .edge (Label.ofChar source) (Label.ofChar arrow.1) (Label.ofChar arrow.2))).map
        fun _ => () := by
  induction arrows generalizing machine with
  | nil => rfl
  | cons arrow rest ih =>
    rw [List.map_cons, attemptAll, List.foldlM_cons, checkArrows, attempt_edge]
    cases machine.checkEdge (Label.ofChar source) (Label.ofChar arrow.1) (Label.ofChar arrow.2) with
    | error why => rfl
    | ok edge =>
      rw [← checkArrows_insertEdge edge]
      exact ih

section Checked

variable {found : Except Refusal Unit} {steps : List BuildStep}

/-- Where the checks pass, all calls are carried out. -/
theorem callChecked_of_ok (inOrder : machine.attemptAll steps = .ok last) :
    machine.callChecked (.ok ()) (calls steps) = (.ok (), last) := by
  rw [← done_callAll, done_eq_ok_iff] at inOrder
  rw [callChecked, inOrder]
  rfl

theorem done_callChecked_eq_ok_iff
    (inOrder : found = .ok () ↔ ∃ last, machine.attemptAll steps = .ok last) :
    (machine.callChecked found (calls steps)).done = .ok last ↔
      machine.attemptAll steps = .ok last := by
  cases found with
  | error why =>
    simp only [callChecked, Called.done, Except.map, reduceCtorEq, false_iff]
    intro done
    cases inOrder.2 ⟨last, done⟩
  | ok =>
    obtain ⟨reached, done⟩ := inOrder.1 rfl
    rw [callChecked_of_ok done, done_eq_ok_iff, done]
    simp

/-- When the checks pass no call fails, so a failure comes before any change. -/
theorem callChecked_of_error
    (inOrder : found = .ok () ↔ ∃ last, machine.attemptAll steps = .ok last) {why : Refusal}
    (failed : (machine.callChecked found (calls steps)).1 = .error why) :
    (machine.callChecked found (calls steps)).2 = machine := by
  cases found with
  | error _ => rfl
  | ok =>
    obtain ⟨reached, done⟩ := inOrder.1 rfl
    rw [callChecked_of_ok done] at failed
    cases failed

end Checked

theorem checkNewNames_iff_attemptAll (names : List Char) :
    machine.checkNewNames [] names = .ok () ↔
      ∃ last, machine.attemptAll (names.map fun name => .node (Label.ofChar name) false) =
        .ok last := by
  simp [checkNewNames_eq_ok_iff, attemptAll_nodes_eq_ok_iff]

theorem checkArrows_iff_attemptAll (source : Char) (arrows : List (Char × Char)) :
    (machine.checkArrows source arrows).mapError Refusal.machine = .ok () ↔
      ∃ last, machine.attemptAll (arrows.map fun arrow =>
        .edge (Label.ofChar source) (Label.ofChar arrow.1) (Label.ofChar arrow.2)) = .ok last := by
  rw [checkArrows_eq_attemptAll]
  cases machine.attemptAll _ <;> simp [Except.map]

theorem checkKnown_iff_attemptAll (names : List Char) :
    (machine.checkKnown names).mapError Refusal.machine = .ok () ↔
      ∃ last, machine.attemptAll (names.map fun name => .accept (Label.ofChar name)) =
        .ok last := by
  have known : (names.filter fun name => !machine.nodes.contains name) = [] ↔
      ∀ name ∈ names, name ∈ machine.nodes := by
    simp [List.filter_eq_nil_iff]
  simp only [attemptAll_accepts_eq_ok_iff, exists_and_left, exists_eq, and_true, ← known, checkKnown]
  cases names.filter fun name => !machine.nodes.contains name <;> simp

theorem addAll_eq_callChecked (machine : Machine) (names : List Char) :
    machine.addAll names = machine.callChecked (machine.checkNewNames [] names)
      (calls (names.map fun name => .node (Label.ofChar name) false)) := by
  rw [addAll, calls, List.map_map]
  rfl

theorem connectAll_eq_callChecked (machine : Machine) (source : Char)
    (arrows : List (Char × Char)) :
    machine.connectAll source arrows =
      machine.callChecked ((machine.checkArrows source arrows).mapError .machine)
        (calls (arrows.map fun arrow =>
          .edge (Label.ofChar source) (Label.ofChar arrow.1) (Label.ofChar arrow.2))) := by
  rw [connectAll, calls, List.map_map]
  rfl

theorem acceptAll_eq_callChecked (machine : Machine) (names : List Char) :
    machine.acceptAll names =
      machine.callChecked ((machine.checkKnown names).mapError .machine)
        (calls (names.map fun name => .accept (Label.ofChar name))) := by
  rw [acceptAll, calls, List.map_map]
  rfl

theorem addAll_eq_ok_iff (names : List Char) :
    (machine.addAll names).done = .ok last ↔
      machine.attemptAll (names.map fun name => .node (Label.ofChar name) false) = .ok last := by
  rw [addAll_eq_callChecked]
  exact done_callChecked_eq_ok_iff (checkNewNames_iff_attemptAll names)

theorem connectAll_eq_ok_iff (source : Char) (arrows : List (Char × Char)) :
    (machine.connectAll source arrows).done = .ok last ↔
      machine.attemptAll (arrows.map fun arrow =>
        .edge (Label.ofChar source) (Label.ofChar arrow.1) (Label.ofChar arrow.2)) = .ok last := by
  rw [connectAll_eq_callChecked]
  exact done_callChecked_eq_ok_iff (checkArrows_iff_attemptAll source arrows)

theorem acceptAll_eq_ok_iff (names : List Char) :
    (machine.acceptAll names).done = .ok last ↔
      machine.attemptAll (names.map fun name => .accept (Label.ofChar name)) = .ok last := by
  rw [acceptAll_eq_callChecked]
  exact done_callChecked_eq_ok_iff (checkKnown_iff_attemptAll names)

theorem isAtomic_addAll (names : List Char) : IsAtomic fun machine => machine.addAll names := by
  intro machine why failed
  simp only [addAll_eq_callChecked] at failed ⊢
  exact callChecked_of_error (checkNewNames_iff_attemptAll names) failed

theorem isAtomic_connectAll (source : Char) (arrows : List (Char × Char)) :
    IsAtomic fun machine => machine.connectAll source arrows := by
  intro machine why failed
  simp only [connectAll_eq_callChecked] at failed ⊢
  exact callChecked_of_error (checkArrows_iff_attemptAll source arrows) failed

theorem isAtomic_acceptAll (names : List Char) :
    IsAtomic fun machine => machine.acceptAll names := by
  intro machine why failed
  simp only [acceptAll_eq_callChecked] at failed ⊢
  exact callChecked_of_error (checkKnown_iff_attemptAll names) failed

end Machine

end AutomataShell
