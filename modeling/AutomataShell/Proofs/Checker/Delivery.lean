import AutomataShell.Proofs.Checker.Protocol

/-! What a refused text has come to. While no check is in flight it is the text taken up last. The report
delivered last is that of its check, unless that check has crashed: a crash delivers nothing and leaves
the text remembered, so that it is refused like a text with a report. -/

set_option autoImplicit false

namespace AutomataShell.Checker

/-- The check whose report was delivered last. -/
def latestDelivery : List Act → Option Nat
  | [] => none
  | .delivered number :: _ => some number
  | _ :: log => latestDelivery log

variable {log : List Act} {hash : Text → Int} {checker : Checker}

/-- The report that was delivered last is that of the check. -/
def ReportedLast (log : List Act) (checker : Checker) (check : Text × Nat) : Prop :=
  latestDelivery log = some check.2 ∧
    ∃ report, checker.delivered.head? = some report ∧ Reports log check report

/-- How the deliveries in a log stand to the texts taken up and to the reports that have come of them. -/
structure Tracks (log : List Act) (checker : Checker) : Prop where
  once : ∀ number, .delivered number ∈ log → .crashed number ∉ log
  latest : ∀ number, latestDelivery log = some number → .delivered number ∈ log ∧
    ∃ text, (accepted log)[number]? = some text ∧ ReportedLast log checker (text, number)
  last : ∀ number, (accepted log).length = number + 1 → .delivered number ∈ log →
    latestDelivery log = some number

theorem Act.IsQuiet.ne_delivered {act : Act} (quiet : act.IsQuiet) (number : Nat) :
    act ≠ .delivered number := by
  rintro rfl
  exact quiet

theorem latestDelivery_cons {act : Act} (other : ∀ number, act ≠ .delivered number) :
    latestDelivery (act :: log) = latestDelivery log := by
  cases act with
  | delivered number => exact absurd rfl (other number)
  | _ => rfl

theorem ReportedLast.cons {check : Text × Nat} (reported : ReportedLast log checker check) {act : Act}
    (other : ∀ number, act ≠ .delivered number) {next : Checker}
    (same : next.delivered = checker.delivered) : ReportedLast (act :: log) next check := by
  obtain ⟨latest, report, first, reports⟩ := reported
  exact ⟨(latestDelivery_cons other).trans latest, report, same ▸ first, reports.cons act⟩

/-- The check of a thread is that of the text taken up last. -/
theorem Standing.accepted_of_mem {locked : Bool} {workers : List Worker} {worker : Worker}
    (standing : Standing log locked workers) (working : worker ∈ workers) :
    (accepted log).length = worker.number + 1 ∧
      (accepted log)[worker.number]? = some worker.text := by
  cases standing with
  | idle => cases working
  | engaged texts number _ _ =>
    cases List.mem_singleton.1 working
    rw [texts, number]
    simp

namespace Tracks

theorem of_quiet (tracks : Tracks log checker) {act : Act} (quiet : act.IsQuiet) {next : Checker}
    (same : next.delivered = checker.delivered) : Tracks (act :: log) next where
  once number := by
    rw [delivered_mem_of_quiet quiet, crashed_mem_of_quiet quiet]
    exact tracks.once number
  latest number latest := by
    rw [latestDelivery_cons quiet.ne_delivered] at latest
    obtain ⟨delivered, text, numbered, reported⟩ := tracks.latest number latest
    rw [delivered_mem_of_quiet quiet, accepted_of_quiet quiet]
    exact ⟨delivered, text, numbered, reported.cons quiet.ne_delivered same⟩
  last number := by
    rw [delivered_mem_of_quiet quiet, accepted_of_quiet quiet,
      latestDelivery_cons quiet.ne_delivered]
    exact tracks.last number

theorem after_acceptance (tracks : Tracks log checker) {text : Text}
    (ended : ∀ number, .delivered number ∈ log → number < (accepted log).length) {next : Checker}
    (same : next.delivered = checker.delivered) : Tracks (.accepted text :: log) next where
  once number := by simpa using tracks.once number
  latest number latest := by
    obtain ⟨delivered, other, numbered, reported⟩ := tracks.latest number latest
    refine ⟨List.mem_cons_of_mem _ delivered, other, ?_, reported.cons (by simp) same⟩
    rw [accepted, List.getElem?_append_left (ended number delivered)]
    exact numbered
  last number length delivered := by
    -- The check of the new text has delivered nothing yet.
    have before := ended number (by simpa using delivered)
    simp only [accepted, List.length_append, List.length_singleton] at length
    omega

theorem after_delivery (tracks : Tracks log checker) {worker : Worker} {report : Report}
    (flying : InFlight log worker.number) (length : (accepted log).length = worker.number + 1)
    (numbered : (accepted log)[worker.number]? = some worker.text)
    (due : Reports log (worker.text, worker.number) report) {next : Checker}
    (handed : next.delivered.head? = some report) :
    Tracks (.delivered worker.number :: log) next where
  once number delivered := by
    rcases List.mem_cons.1 delivered with same | before
    · cases same
      simpa using flying.2.2
    · simpa using tracks.once number before
  latest number latest := by
    cases latest
    exact ⟨List.mem_cons_self, worker.text, numbered, rfl, report, handed, due.cons _⟩
  last number lengthToo _ := by
    rw [accepted_of_ends (.inl rfl), length] at lengthToo
    cases lengthToo
    rfl

theorem after_crash (tracks : Tracks log checker) {number : Nat} (flying : InFlight log number)
    {next : Checker} (same : next.delivered = checker.delivered) :
    Tracks (.crashed number :: log) next where
  once other delivered := by
    have before : .delivered other ∈ log := by simpa using delivered
    have apart : other ≠ number := by
      rintro rfl
      exact flying.2.1 before
    simpa [apart] using tracks.once other before
  latest other latest := by
    obtain ⟨delivered, text, numbered, reported⟩ := tracks.latest other latest
    exact ⟨List.mem_cons_of_mem _ delivered, text, numbered, reported.cons (by simp) same⟩
  last other length delivered := tracks.last other length (by simpa using delivered)

theorem step (tracks : Tracks log checker) (keeps : Keeps hash log checker) {act : Act}
    {next : Checker} (step : Step hash checker act next) : Tracks (act :: log) next := by
  have flying {worker : Worker} (working : worker ∈ checker.workers) : InFlight log worker.number :=
    (keeps.standing.inFlight_iff _).2 (List.mem_map_of_mem working)
  cases step with
  | accepted submitted =>
    obtain ⟨_, rfl⟩ := submitBy_eq_true submitted
    exact tracks.after_acceptance (fun number delivered => keeps.ended number (.inl delivered)) rfl
  | @refused text _ submitted =>
    have quiet : (Act.refused text).IsQuiet := trivial
    cases submitBy_eq_false submitted
    exact tracks.of_quiet quiet rfl
  | forgotten =>
    have quiet : Act.forgotten.IsQuiet := trivial
    exact tracks.of_quiet quiet rfl
  | @examined worker disk _ _ working due told =>
    have quiet : (Act.examined worker.number disk).IsQuiet := trivial
    refine tracks.of_quiet quiet ?_
    simp only [examineBy, due, told]
  | broken working due untold =>
    refine tracks.after_crash (flying working) ?_
    simp only [examineBy, due, untold, finish]
  | @delivered worker report working ready =>
    obtain ⟨length, numbered⟩ := keeps.standing.accepted_of_mem working
    refine tracks.after_delivery (flying working) length numbered
      (keeps.standing.reports working ready) ?_
    rw [deliverBy, ready]
    rfl
  | crashed working => exact tracks.after_crash (flying working) rfl

end Tracks

theorem Run.tracks (run : Run hash log checker) : Tracks log checker := by
  induction run with
  | start => exact ⟨by simp, by simp [latestDelivery], by simp⟩
  | next before step ih => exact ih.step before.keeps step

theorem exists_accepted_of_remembered {text : Text} (kept : remembered log = some text) :
    ∃ earlier, accepted log = earlier ++ [text] := by
  induction log with
  | nil => cases kept
  | cons act log ih =>
    cases act with
    | accepted other =>
      cases kept
      exact ⟨accepted log, rfl⟩
    | forgotten => cases kept
    | refused | examined | delivered | crashed => exact ih kept

/-- A text is remembered until another is taken up or it is forgotten. -/
theorem remembered_append {acts : List Act} (unaccepted : ∀ text, .accepted text ∉ acts)
    (unforgotten : .forgotten ∉ acts) : remembered (acts ++ log) = remembered log := by
  induction acts with
  | nil => rfl
  | cons act acts ih =>
    have others := ih (fun text member => unaccepted text (List.mem_cons_of_mem act member))
      fun member => unforgotten (List.mem_cons_of_mem act member)
    cases act with
    | accepted text => exact absurd List.mem_cons_self (unaccepted text)
    | forgotten => exact absurd List.mem_cons_self unforgotten
    | refused | examined | delivered | crashed => exact others

/-- A text that is refused while no check is in flight is the one taken up last. The report delivered
last is that of its check if and only if the check has not crashed. Either way the text is refused from
then on, until another one is taken up or it is forgotten. -/
theorem Run.reportedLast_iff (run : Run hash log checker) {text : Text}
    (apart : Set.InjOn hash {other | other = text ∨ other ∈ submitted log})
    (refused : (checker.submitBy hash text).1 = false) (idle : ∀ number, ¬ InFlight log number) :
    ∃ earlier, accepted log = earlier ++ [text] ∧
      (ReportedLast log checker (text, earlier.length) ↔ .crashed earlier.length ∉ log) ∧
      ∀ acts later, Run hash (acts ++ log) later → (∀ other, .accepted other ∉ acts) →
        .forgotten ∉ acts → (later.submitBy hash text).1 = false := by
  have keeps := run.keeps
  have tracks := run.tracks
  have kept : remembered log = some text := by
    by_contra other
    rw [(keeps.submitBy_iff apart).2 ⟨idle, other⟩] at refused
    cases refused
  obtain ⟨earlier, texts⟩ := exists_accepted_of_remembered kept
  have length : (accepted log).length = earlier.length + 1 := by simp [texts]
  refine ⟨earlier, texts, ⟨?_, ?_⟩, ?_⟩
  · rintro ⟨latest, _⟩
    exact tracks.once _ (tracks.latest _ latest).1
  · intro uncrashed
    have delivered : .delivered earlier.length ∈ log := by
      by_contra undelivered
      exact idle earlier.length ⟨by omega, undelivered, uncrashed⟩
    obtain ⟨_, other, numbered, reported⟩ := tracks.latest _ (tracks.last _ length delivered)
    have same : text = other := by simpa [texts] using numbered
    exact same ▸ reported
  · intro acts later further unaccepted unforgotten
    have taken : later.taken = some (hash text) := by
      rw [further.keeps.taken, remembered_append unaccepted unforgotten, kept, Option.map_some]
    rw [submitBy, if_pos taken]

/-- The check of a text that imports a file without text in it breaks down. It has delivered nothing, and
yet the text is refused. -/
theorem not_reportedLast_of_crash :
    ∃ log checker, Run fingerprint log checker ∧ .forgotten ∉ log ∧
      (∀ number, ¬ InFlight log number) ∧ (checker.submit "import bad").1 = false ∧
      checker.delivered = [] ∧ ¬ ReportedLast log checker ("import bad", 0) := by
  let disk : Disk := ⟨[(["bad"], .file (.undecodable [0xFF]))], [], []⟩
  let worker : Worker := ⟨0, "import bad", .checking⟩
  let log : List Act := [.crashed 0, .accepted "import bad"]
  let left : Checker := ⟨some (fingerprint "import bad"), false, 1, [], []⟩
  have breaks : (examination "import bad" disk).1 = none := by decide +kernel
  have untold : examination worker.text disk = (none, (examination "import bad" disk).2) :=
    Prod.ext breaks rfl
  have ended : (examineBy ⟨some (fingerprint "import bad"), true, 1, [worker], []⟩ worker disk).1 =
      left := by
    rw [examineBy, untold]
    simp [finish, left, worker]
  have taken : Run fingerprint (log.drop 1)
      ⟨some (fingerprint "import bad"), true, 1, [worker], []⟩ := Run.start.next (.accepted rfl)
  have crashed : Run fingerprint log left :=
    ended ▸ taken.next (.broken List.mem_cons_self rfl untold)
  have refused : (left.submitBy fingerprint "import bad").1 = false := by
    rw [submitBy, if_pos rfl]
  have idle (number : Nat) : ¬ InFlight log number := fun flying =>
    List.not_mem_nil ((crashed.keeps.standing.inFlight_iff number).1 flying)
  obtain ⟨earlier, texts, reported_iff, _⟩ :=
    crashed.reportedLast_iff fingerprint_injective.injOn refused idle
  have first : earlier.length = 0 := by simpa [accepted, log] using congrArg List.length texts.symm
  rw [first] at reported_iff
  exact ⟨log, left, crashed, by simp [log], idle, refused, rfl,
    fun reported => reported_iff.1 reported List.mem_cons_self⟩

end AutomataShell.Checker
