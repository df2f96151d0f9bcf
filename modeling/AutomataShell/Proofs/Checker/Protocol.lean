import Mathlib.Data.List.Forall2
import Mathlib.Data.Set.Function
import AutomataShell.Checker

/-! The protocol between whoever submits texts and the threads that check them. It is told from the log
of what has happened: which texts were taken up, and which checks have ended, in which way. -/

set_option autoImplicit false

namespace AutomataShell

open Text

theorem fingerprint_nonneg (text : Text) : 0 ≤ fingerprint text := by
  induction text with
  | nil => exact Int.le_refl 0
  | cons c rest ih =>
    unfold fingerprint
    omega

theorem fingerprint_injective : Function.Injective fingerprint := by
  have below (c : Char) : c.toNat < 0x110000 := by
    rcases c.valid with below | ⟨_, below⟩
    · exact Nat.lt_trans below (by decide)
    · exact below
  intro text
  induction text with
  | nil =>
    intro other same
    cases other with
    | nil => rfl
    | cons c rest =>
      have := fingerprint_nonneg rest
      simp only [fingerprint] at same
      omega
  | cons c rest ih =>
    intro other same
    cases other with
    | nil =>
      have := fingerprint_nonneg rest
      simp only [fingerprint] at same
      omega
    | cons d more =>
      -- The last digit of a fingerprint is its first character.
      have := below c
      have := below d
      simp only [fingerprint] at same
      have sameCode : c.toNat = d.toNat := by omega
      have sameRest : fingerprint rest = fingerprint more := by omega
      rw [Char.toNat_inj.1 sameCode, ih sameRest]

namespace Checker

/-- What happens to a checker. A check goes by the number of texts taken up before its own. -/
inductive Act where
  | accepted (text : Text)
  | refused (text : Text)
  | forgotten
  | examined (number : Nat) (disk : Disk)
  | delivered (number : Nat)
  | crashed (number : Nat)
  deriving DecidableEq

/-- One act. Texts may be submitted, and forgotten, wherever the threads stand. -/
inductive Step (hash : Text → Int) (checker : Checker) : Act → Checker → Prop where
  | accepted {text : Text} {next : Checker} (submitted : checker.submitBy hash text = (true, next)) :
      Step hash checker (.accepted text) next
  | refused {text : Text} {next : Checker} (submitted : checker.submitBy hash text = (false, next)) :
      Step hash checker (.refused text) next
  | forgotten : Step hash checker .forgotten checker.forget
  | examined {worker : Worker} {disk left : Disk} {report : Report}
      (working : worker ∈ checker.workers) (due : worker.stage = .checking)
      (told : examination worker.text disk = (some report, left)) :
      Step hash checker (.examined worker.number disk) (checker.examineBy worker disk).1
  | broken {worker : Worker} {disk left : Disk}
      (working : worker ∈ checker.workers) (due : worker.stage = .checking)
      (untold : examination worker.text disk = (none, left)) :
      Step hash checker (.crashed worker.number) (checker.examineBy worker disk).1
  | delivered {worker : Worker} {report : Report}
      (working : worker ∈ checker.workers) (ready : worker.stage = .reporting report) :
      Step hash checker (.delivered worker.number) (checker.deliverBy worker)
  | crashed {worker : Worker} (working : worker ∈ checker.workers) :
      Step hash checker (.crashed worker.number) (checker.finish worker)

/-- A run with its log. The latest act comes first. -/
inductive Run (hash : Text → Int) : List Act → Checker → Prop where
  | start : Run hash [] start
  | next {log : List Act} {checker reached : Checker} {act : Act} (run : Run hash log checker)
      (step : Step hash checker act reached) : Run hash (act :: log) reached

/-- The texts that were taken up, in their order. -/
def accepted : List Act → List Text
  | [] => []
  | .accepted text :: log => accepted log ++ [text]
  | _ :: log => accepted log

def submitted : List Act → List Text
  | [] => []
  | .accepted text :: log | .refused text :: log => text :: submitted log
  | _ :: log => submitted log

/-- The text taken up last, unless it was forgotten since. -/
def remembered : List Act → Option Text
  | [] => none
  | .accepted text :: _ => some text
  | .forgotten :: _ => none
  | _ :: log => remembered log

def InFlight (log : List Act) (number : Nat) : Prop :=
  number < (accepted log).length ∧ .delivered number ∉ log ∧ .crashed number ∉ log

instance (log : List Act) (number : Nat) : Decidable (InFlight log number) :=
  inferInstanceAs (Decidable (_ ∧ _))

/-- Neither in flight nor crashed. -/
def IsComplete (log : List Act) (number : Nat) : Prop :=
  ¬ InFlight log number ∧ .crashed number ∉ log

instance (log : List Act) (number : Nat) : Decidable (IsComplete log number) :=
  inferInstanceAs (Decidable (_ ∧ _))

/-- The complete checks, each with its text, in the order in which the texts were taken up. -/
def complete (log : List Act) : List (Text × Nat) :=
  (accepted log).zipIdx.filter fun check => IsComplete log check.2

/-- What a check has to report: nothing on a blank text, else what came of the text in a session of its
own, on the files that the check has found. -/
def Reports (log : List Act) (check : Text × Nat) (report : Report) : Prop :=
  if check.1.all isBlank then
    report = none
  else
    ∃ disk result, .examined check.2 disk ∈ log ∧
      ((Workspace.start disk).check check.1).1 = .ok result ∧ report = some result

variable {log : List Act} {hash : Text → Int} {checker : Checker}

theorem Reports.cons {check : Text × Nat} {report : Report} (reports : Reports log check report)
    (act : Act) : Reports (act :: log) check report := by
  unfold Reports at reports ⊢
  split
  · rwa [if_pos ‹_›] at reports
  · rw [if_neg ‹_›] at reports
    obtain ⟨disk, result, examined, checked, same⟩ := reports
    exact ⟨disk, result, List.mem_cons_of_mem act examined, checked, same⟩

theorem reports_of_examination {text : Text} {number : Nat} {disk left : Disk} {report : Report}
    (told : examination text disk = (some report, left)) :
    Reports (.examined number disk :: log) (text, number) report := by
  unfold examination at told
  unfold Reports
  split at told
  · rename_i blank
    rw [if_pos blank]
    cases told
    rfl
  · rename_i isText
    rw [if_neg isText]
    split at told
    · rename_i result _ checked
      cases told
      exact ⟨disk, result, List.mem_cons_self, by rw [checked], rfl⟩
    · cases told

theorem mem_submitted_of_remembered {text : Text} (kept : remembered log = some text) :
    text ∈ submitted log := by
  induction log with
  | nil => cases kept
  | cons act log ih =>
    cases act with
    | accepted other =>
      cases kept
      exact List.mem_cons_self
    | refused other => exact List.mem_cons_of_mem _ (ih kept)
    | forgotten => cases kept
    | examined | delivered | crashed => exact ih kept

/-- The latest of the checks is complete or not, whatever became of the others. -/
theorem complete_of_concat {earlier : List Text} {text : Text}
    (texts : accepted log = earlier ++ [text]) :
    complete log = earlier.zipIdx.filter (fun check => IsComplete log check.2) ++
      if IsComplete log earlier.length then [(text, earlier.length)] else [] := by
  rw [complete, texts, List.zipIdx_append, List.filter_append]
  by_cases done : IsComplete log earlier.length <;> simp [done]

theorem filter_isComplete_congr {earlier : List Text} {other : List Act}
    (alike : ∀ number < earlier.length, IsComplete log number ↔ IsComplete other number) :
    earlier.zipIdx.filter (fun check => IsComplete log check.2) =
      earlier.zipIdx.filter fun check => IsComplete other check.2 := by
  refine List.filter_congr fun check member => ?_
  have below := (List.mem_zipIdx member).2.1
  simp [alike check.2 (by simpa using below)]

/-- Where the threads stand. There is none while the lock is free, and one while it is held, with the
text that was taken up last. -/
inductive Standing (log : List Act) : Bool → List Worker → Prop where
  | idle (none : ∀ number, ¬ InFlight log number) : Standing log false []
  | engaged {worker : Worker} {earlier : List Text} (texts : accepted log = earlier ++ [worker.text])
      (number : worker.number = earlier.length)
      (only : ∀ number, InFlight log number ↔ number = worker.number)
      (due : ∀ report, worker.stage = .reporting report →
        Reports log (worker.text, worker.number) report) : Standing log true [worker]

/-- What every run keeps between its log and its checker. -/
structure Keeps (hash : Text → Int) (log : List Act) (checker : Checker) : Prop where
  started : checker.started = (accepted log).length
  taken : checker.taken = (remembered log).map hash
  ended : ∀ number, .delivered number ∈ log ∨ .crashed number ∈ log → number < (accepted log).length
  standing : Standing log checker.locked checker.workers
  delivered : List.Forall₂ (Reports log) (complete log) checker.delivered.reverse

/-- An act that neither takes a text up nor ends a check. -/
def Act.IsQuiet : Act → Prop
  | .refused _ | .forgotten | .examined _ _ => True
  | .accepted _ | .delivered _ | .crashed _ => False

section

variable {act : Act}

theorem accepted_of_quiet (quiet : act.IsQuiet) : accepted (act :: log) = accepted log := by
  cases act with
  | accepted => cases quiet
  | _ => rfl

theorem delivered_mem_of_quiet (quiet : act.IsQuiet) (number : Nat) :
    .delivered number ∈ act :: log ↔ .delivered number ∈ log := by
  have other : .delivered number ≠ act := by
    rintro rfl
    exact quiet
  simp [other]

theorem crashed_mem_of_quiet (quiet : act.IsQuiet) (number : Nat) :
    .crashed number ∈ act :: log ↔ .crashed number ∈ log := by
  have other : .crashed number ≠ act := by
    rintro rfl
    exact quiet
  simp [other]

theorem inFlight_of_quiet (quiet : act.IsQuiet) (number : Nat) :
    InFlight (act :: log) number ↔ InFlight log number := by
  rw [InFlight, accepted_of_quiet quiet, delivered_mem_of_quiet quiet, crashed_mem_of_quiet quiet,
    InFlight]

theorem complete_of_quiet (quiet : act.IsQuiet) : complete (act :: log) = complete log := by
  have alike (number : Nat) : IsComplete (act :: log) number ↔ IsComplete log number := by
    rw [IsComplete, inFlight_of_quiet quiet, crashed_mem_of_quiet quiet, IsComplete]
  rw [complete, accepted_of_quiet quiet]
  exact filter_isComplete_congr fun number _ => alike number

theorem Standing.of_quiet (quiet : act.IsQuiet) {locked : Bool} {workers : List Worker}
    (standing : Standing log locked workers) : Standing (act :: log) locked workers := by
  cases standing with
  | idle none => exact .idle fun number => (inFlight_of_quiet quiet number).not.2 (none number)
  | engaged texts number only due =>
    exact .engaged ((accepted_of_quiet quiet).trans texts) number
      (fun other => (inFlight_of_quiet quiet other).trans (only other))
      fun report ready => (due report ready).cons act

/-- A quiet act may change what is remembered, and where a thread stands. -/
theorem Keeps.of_quiet (keeps : Keeps hash log checker) (quiet : act.IsQuiet) {taken : Option Int}
    {workers : List Worker} (recalls : taken = (remembered (act :: log)).map hash)
    (standing : Standing (act :: log) checker.locked workers) :
    Keeps hash (act :: log) { checker with taken, workers } where
  started := (accepted_of_quiet quiet).symm ▸ keeps.started
  taken := recalls
  ended number ends := by
    rw [delivered_mem_of_quiet quiet, crashed_mem_of_quiet quiet] at ends
    exact (accepted_of_quiet quiet).symm ▸ keeps.ended number ends
  standing := standing
  delivered := by
    rw [complete_of_quiet quiet]
    exact keeps.delivered.imp fun _ _ reports => reports.cons act

end

theorem submitBy_eq_true {text : Text} {next : Checker}
    (submitted : checker.submitBy hash text = (true, next)) :
    checker.locked = false ∧ next = { checker with
      taken := some (hash text)
      locked := true
      started := checker.started + 1
      workers := ⟨checker.started, text, .checking⟩ :: checker.workers } := by
  unfold submitBy at submitted
  split at submitted
  · cases submitted
  · split at submitted
    · cases submitted
    · rename_i free
      exact ⟨by simpa using free, (Prod.mk.inj submitted).2.symm⟩

theorem submitBy_eq_false {text : Text} {next : Checker}
    (submitted : checker.submitBy hash text = (false, next)) : next = checker := by
  unfold submitBy at submitted
  split at submitted
  · exact (Prod.mk.inj submitted).2.symm
  · split at submitted
    · exact (Prod.mk.inj submitted).2.symm
    · cases submitted

section

variable {locked : Bool} {workers : List Worker} {worker : Worker}

theorem Standing.inFlight_iff (standing : Standing log locked workers) (number : Nat) :
    InFlight log number ↔ number ∈ workers.map Worker.number := by
  cases standing with
  | idle none => simp [none number]
  | engaged _ _ only _ => simp [only number]

theorem Standing.reports (standing : Standing log locked workers) (working : worker ∈ workers)
    {report : Report} (ready : worker.stage = .reporting report) :
    Reports log (worker.text, worker.number) report := by
  cases standing with
  | idle => cases working
  | engaged _ _ _ due =>
    cases List.mem_singleton.1 working
    exact due report ready

theorem Standing.length_le_one (standing : Standing log locked workers) : workers.length ≤ 1 := by
  cases standing <;> simp

theorem Standing.locked_iff (standing : Standing log locked workers) :
    locked = true ↔ ∃ number, InFlight log number := by
  cases standing with
  | idle none => simp [none]
  | engaged _ _ only _ => simp [only]

theorem Standing.examined (standing : Standing log locked workers) (working : worker ∈ workers)
    {disk left : Disk} {report : Report}
    (told : examination worker.text disk = (some report, left)) :
    Standing (.examined worker.number disk :: log) locked
      (workers.replace worker { worker with stage := .reporting report }) := by
  cases standing.of_quiet (show (Act.examined worker.number disk).IsQuiet from trivial) with
  | idle => cases working
  | engaged texts number only due =>
    cases List.mem_singleton.1 working
    rw [List.replace_cons_self]
    refine .engaged texts number only fun _ same => ?_
    cases same
    exact reports_of_examination told

/-- The end of a check: its report has been delivered, or it has crashed. -/
def Act.Ends (number : Nat) (act : Act) : Prop :=
  act = .delivered number ∨ act = .crashed number

theorem accepted_of_ends {number : Nat} {act : Act} (ends : act.Ends number) :
    accepted (act :: log) = accepted log := by
  rcases ends with rfl | rfl <;> rfl

theorem not_inFlight_of_ends {number : Nat} {act : Act} (ends : act.Ends number)
    (only : ∀ other, InFlight log other ↔ other = number) (other : Nat) :
    ¬ InFlight (act :: log) other := by
  intro still
  have same : accepted (act :: log) = accepted log := accepted_of_ends ends
  have before : InFlight log other :=
    ⟨same ▸ still.1, fun member => still.2.1 (List.mem_cons_of_mem act member),
      fun member => still.2.2 (List.mem_cons_of_mem act member)⟩
  obtain rfl := (only other).1 before
  rcases ends with rfl | rfl
  · exact still.2.1 List.mem_cons_self
  · exact still.2.2 List.mem_cons_self

/-- When the check in flight ends, none is left. -/
theorem Standing.of_ends (standing : Standing log locked workers) (working : worker ∈ workers)
    {act : Act} (ends : act.Ends worker.number) :
    Standing (act :: log) false (workers.erase worker) := by
  cases standing with
  | idle => cases working
  | engaged _ _ only _ =>
    cases List.mem_singleton.1 working
    rw [List.erase_cons_head]
    exact .idle (not_inFlight_of_ends ends only)

/-- Of the ways in which a check can end, it is complete in one. -/
theorem Standing.complete_of_ends (standing : Standing log locked workers)
    (working : worker ∈ workers) {act : Act} (ends : act.Ends worker.number) :
    complete (act :: log) = complete log ++
      if act = .delivered worker.number then [(worker.text, worker.number)] else [] := by
  cases standing with
  | idle => cases working
  | @engaged engaged earlier texts number only _ =>
    obtain rfl : worker = engaged := List.mem_singleton.1 working
    have none := not_inFlight_of_ends ends only
    have flying : InFlight log worker.number := (only _).2 rfl
    have alike (other : Nat) (below : other < earlier.length) :
        IsComplete (act :: log) other ↔ IsComplete log other := by
      have apart : other ≠ worker.number := number ▸ below.ne
      have landed : ¬ InFlight log other := fun still => apart ((only other).1 still)
      rcases ends with rfl | rfl <;> simp [IsComplete, none other, landed, apart]
    have incomplete : ¬ IsComplete log worker.number := fun done => done.1 flying
    have completed : IsComplete (act :: log) worker.number ↔ act = .delivered worker.number := by
      rcases ends with rfl | rfl <;> simp [IsComplete, none worker.number, flying.2.2]
    rw [complete_of_concat ((accepted_of_ends ends).trans texts), complete_of_concat texts,
      filter_isComplete_congr alike, ← number, if_neg incomplete, List.append_nil]
    simp only [completed]

end

/-- A text that is taken up is in flight. No check was before, and none with its number has ended. -/
theorem inFlight_of_acceptance {text : Text} (none : ∀ number, ¬ InFlight log number)
    (ended : ∀ number, .delivered number ∈ log ∨ .crashed number ∈ log →
      number < (accepted log).length) (number : Nat) :
    InFlight (.accepted text :: log) number ↔ number = (accepted log).length := by
  have landed := none number
  have past := ended number
  simp only [InFlight, accepted, List.length_append, List.length_singleton, List.mem_cons,
    reduceCtorEq, false_or] at landed ⊢
  constructor
  · rintro ⟨below, undelivered, uncrashed⟩
    have reached : ¬ number < (accepted log).length := fun within =>
      landed ⟨within, undelivered, uncrashed⟩
    omega
  · rintro rfl
    exact ⟨Nat.lt_succ_self _, fun member => (past (.inl member)).false,
      fun member => (past (.inr member)).false⟩

theorem complete_of_acceptance {text : Text} (none : ∀ number, ¬ InFlight log number)
    (only : ∀ number, InFlight (.accepted text :: log) number ↔ number = (accepted log).length) :
    complete (.accepted text :: log) = complete log := by
  have alike (number : Nat) (below : number < (accepted log).length) :
      IsComplete (.accepted text :: log) number ↔ IsComplete log number := by
    have landed : ¬ InFlight (.accepted text :: log) number := fun flying =>
      below.ne ((only number).1 flying)
    simp [IsComplete, landed, none number]
  have incomplete : ¬ IsComplete (.accepted text :: log) (accepted log).length :=
    fun done => done.1 ((only _).2 rfl)
  rw [complete_of_concat rfl, if_neg incomplete, List.append_nil]
  exact filter_isComplete_congr alike

theorem Keeps.after_acceptance (keeps : Keeps hash log checker) {text : Text} {next : Checker}
    (submitted : checker.submitBy hash text = (true, next)) :
    Keeps hash (.accepted text :: log) next := by
  obtain ⟨free, rfl⟩ := submitBy_eq_true submitted
  obtain ⟨started, taken, ended, standing, delivered⟩ := keeps
  rw [free] at standing
  generalize checker.workers = workers at standing ⊢
  -- The lock was free, so there was no thread.
  cases standing with
  | idle none =>
    have only (number : Nat) :
        InFlight (.accepted text :: log) number ↔ number = (accepted log).length :=
      inFlight_of_acceptance none ended number
    refine ⟨?_, rfl, fun number ends => ?_, .engaged rfl started (started ▸ only) (by simp), ?_⟩
    · simp [accepted, started]
    · have before := ended number (by simpa using ends)
      simp only [accepted, List.length_append, List.length_singleton]
      exact Nat.lt_succ_of_lt before
    · rw [complete_of_acceptance none only]
      exact delivered.imp fun _ _ reports => reports.cons _

/-- The end of a check, with what has been delivered by then. -/
theorem Keeps.finish (keeps : Keeps hash log checker) {worker : Worker} {act : Act}
    (working : worker ∈ checker.workers) (ends : act.Ends worker.number) {reports : List Report}
    (handed : List.Forall₂ (Reports (act :: log)) (complete (act :: log)) reports.reverse) :
    Keeps hash (act :: log) { checker.finish worker with delivered := reports } := by
  have same : accepted (act :: log) = accepted log := accepted_of_ends ends
  refine ⟨same ▸ keeps.started, ?_, fun number ended => ?_, keeps.standing.of_ends working ends,
    handed⟩
  · rcases ends with rfl | rfl <;> exact keeps.taken
  · have flying : InFlight log worker.number :=
      (keeps.standing.inFlight_iff _).2 (List.mem_map_of_mem working)
    have before := keeps.ended number
    rw [same]
    rcases ends with rfl | rfl <;> grind [InFlight]

theorem Keeps.after_delivery (keeps : Keeps hash log checker) {worker : Worker} {report : Report}
    (working : worker ∈ checker.workers) (ready : worker.stage = .reporting report) :
    Keeps hash (.delivered worker.number :: log) (checker.deliverBy worker) := by
  have due : Reports log (worker.text, worker.number) report :=
    keeps.standing.reports working ready
  rw [deliverBy, ready]
  refine keeps.finish working (.inl rfl) ?_
  rw [keeps.standing.complete_of_ends working (.inl rfl), if_pos rfl, List.reverse_cons]
  refine List.rel_append ?_ (.cons (due.cons _) .nil)
  exact keeps.delivered.imp fun _ _ reports => reports.cons _

theorem Keeps.after_crash (keeps : Keeps hash log checker) {worker : Worker}
    (working : worker ∈ checker.workers) :
    Keeps hash (.crashed worker.number :: log) (checker.finish worker) := by
  refine keeps.finish working (.inr rfl) ?_
  rw [keeps.standing.complete_of_ends working (.inr rfl), if_neg (by simp), List.append_nil]
  exact keeps.delivered.imp fun _ _ reports => reports.cons _

theorem Keeps.after_examination (keeps : Keeps hash log checker) {worker : Worker}
    {disk left : Disk} {report : Report} (working : worker ∈ checker.workers)
    (due : worker.stage = .checking)
    (told : examination worker.text disk = (some report, left)) :
    Keeps hash (.examined worker.number disk :: log) (checker.examineBy worker disk).1 := by
  have quiet : (Act.examined worker.number disk).IsQuiet := trivial
  simp only [examineBy, due, told]
  exact keeps.of_quiet quiet keeps.taken (keeps.standing.examined working told)

theorem Keeps.step (keeps : Keeps hash log checker) {act : Act} {next : Checker}
    (step : Step hash checker act next) : Keeps hash (act :: log) next := by
  cases step with
  | accepted submitted => exact keeps.after_acceptance submitted
  | @refused text _ submitted =>
    have quiet : (Act.refused text).IsQuiet := trivial
    cases submitBy_eq_false submitted
    exact keeps.of_quiet quiet keeps.taken (keeps.standing.of_quiet quiet)
  | forgotten =>
    have quiet : Act.forgotten.IsQuiet := trivial
    exact keeps.of_quiet quiet rfl (keeps.standing.of_quiet quiet)
  | examined working due told => exact keeps.after_examination working due told
  | broken working due untold =>
    simp only [examineBy, due, untold]
    exact keeps.after_crash working
  | delivered working ready => exact keeps.after_delivery working ready
  | crashed working => exact keeps.after_crash working

theorem Run.keeps (run : Run hash log checker) : Keeps hash log checker := by
  induction run with
  | start => exact ⟨rfl, rfl, by simp, .idle (by simp [InFlight, accepted]), .nil⟩
  | next _ step ih => exact ih.step step

/-- A text is taken up when no check is in flight and it is not the one that is remembered. -/
theorem Keeps.submitBy_iff (keeps : Keeps hash log checker) {text : Text}
    (apart : Set.InjOn hash {other | other = text ∨ other ∈ submitted log}) :
    (checker.submitBy hash text).1 = true ↔
      (∀ number, ¬ InFlight log number) ∧ remembered log ≠ some text := by
  have known : checker.taken = some (hash text) ↔ remembered log = some text := by
    rw [keeps.taken, Option.map_eq_some_iff]
    constructor
    · rintro ⟨other, kept, collides⟩
      rwa [← apart (.inr (mem_submitted_of_remembered kept)) (.inl rfl) collides]
    · exact fun kept => ⟨text, kept, rfl⟩
  have free : checker.locked = false ↔ ∀ number, ¬ InFlight log number := by
    rw [← Bool.not_eq_true, keeps.standing.locked_iff, not_exists]
  rw [submitBy_fst, free, Ne, known]

/-- At most one check is in flight, and the checker is busy while one is. A text is taken up just when
none is in flight and the text is not the one taken up last, or has been forgotten since. The reports
delivered are those of the complete checks, one for each in the order of their texts. -/
theorem Run.protocol (run : Run hash log checker) :
    checker.workers.length ≤ 1 ∧
      (∀ number, InFlight log number ↔ number ∈ checker.workers.map Worker.number) ∧
      (checker.busy = true ↔ ∃ number, InFlight log number) ∧
      (∀ text, Set.InjOn hash {other | other = text ∨ other ∈ submitted log} →
        ((checker.submitBy hash text).1 = true ↔
          (∀ number, ¬ InFlight log number) ∧ remembered log ≠ some text)) ∧
      List.Forall₂ (Reports log) (complete log) checker.delivered.reverse := by
  have keeps := run.keeps
  exact ⟨keeps.standing.length_le_one, keeps.standing.inFlight_iff, keeps.standing.locked_iff,
    fun _ apart => keeps.submitBy_iff apart, keeps.delivered⟩

/-- Forgotten while its check is under way, a text can be taken up again. The second check crashes. -/
theorem protocol_resubmission :
    ∃ log checker, Run fingerprint log checker ∧ accepted log = ["help", "help"] ∧
      List.Forall₂ (Reports log) [("help", 0)] checker.delivered.reverse ∧
      (checker.submitBy fingerprint "exit").1 = true := by
  let disk : Disk := ⟨[], [], []⟩
  obtain ⟨report, told⟩ : ∃ report, (examination "help" disk).1 = some report :=
    Option.isSome_iff_exists.1 (by decide +kernel)
  let first : Worker := ⟨0, "help", .checking⟩
  let ready : Worker := ⟨0, "help", .reporting report⟩
  let second : Worker := ⟨1, "help", .checking⟩
  let log : List Act := [.crashed 1, .accepted "help", .delivered 0, .examined 0 disk,
    .refused "exit", .forgotten, .accepted "help"]
  have taken : Run fingerprint (log.drop 6) ⟨some (fingerprint "help"), true, 1, [first], []⟩ :=
    Run.start.next (.accepted rfl)
  have refused : Run fingerprint (log.drop 4) ⟨none, true, 1, [first], []⟩ :=
    (taken.next .forgotten).next (.refused rfl)
  have told : examination first.text disk = (some report, (examination "help" disk).2) :=
    Prod.ext told rfl
  have reporting : (examineBy ⟨none, true, 1, [first], []⟩ first disk).1 =
      ⟨none, true, 1, [ready], []⟩ := by
    rw [examineBy, told]
    simp [first, ready]
  have handed : deliverBy ⟨none, true, 1, [ready], []⟩ ready = ⟨none, false, 1, [], [report]⟩ := by
    simp [deliverBy, finish, ready]
  have examined : Run fingerprint (log.drop 3) ⟨none, true, 1, [ready], []⟩ :=
    reporting ▸ refused.next (.examined List.mem_cons_self rfl told)
  have delivered : Run fingerprint (log.drop 2) ⟨none, false, 1, [], [report]⟩ :=
    handed ▸ examined.next (@Step.delivered _ _ ready report List.mem_cons_self rfl)
  have again : Run fingerprint (log.drop 1)
      ⟨some (fingerprint "help"), true, 2, [second], [report]⟩ := delivered.next (.accepted rfl)
  have crashed : Run fingerprint log ⟨some (fingerprint "help"), false, 2, [], [report]⟩ :=
    again.next (@Step.crashed _ _ second List.mem_cons_self)
  obtain ⟨_, inFlight, _, submits, reports⟩ := crashed.protocol
  refine ⟨log, _, crashed, rfl, reports, (submits "exit" fingerprint_injective.injOn).2 ⟨?_, ?_⟩⟩
  · exact fun number flying => List.not_mem_nil ((inFlight number).1 flying)
  · decide

end Checker

end AutomataShell
