import RequestFlow.Report.Basic

/-!
Contract: the cursor of a report, on any list of events.

Owns: a report with an acquisition that is open; the runs that a report contains; the step of a
report as a relation, which has no rule for a cursor without an acquisition and which changes
the innermost open run only; and that every step of a fold is one of this relation, because the
cursor of every run in a report names the acquisition that is open there.

Does not own: what the events of a run fold to (`Proofs.Report.Reconstruction`).
-/

namespace RequestFlow

namespace AuthReport

def name : AuthReport → String
  | .mk name _ _ => name

def finished : AuthReport → Bool
  | .mk _ finished _ => finished

def run : AuthReport → RunReport
  | .mk _ _ run => run

end AuthReport

namespace RunReport

/-! ## Open acquisitions -/

/-- A report whose newest playbook has an open acquisition. -/
def opened (name : String) (status : ReportStatus) (requests : List RequestReport)
    (pending : List AuthReport) (earlier : List PlaybookReport) (auth : String)
    (run : RunReport) : RunReport :=
  .mk (.mk name status requests (.mk auth false run :: pending) :: earlier) (some auth)

/-- A report whose newest playbook has an acquisition that has just ended. -/
def ended (name : String) (status : ReportStatus) (requests : List RequestReport)
    (pending : List AuthReport) (earlier : List PlaybookReport) (auth : String)
    (run : RunReport) : RunReport :=
  .mk (.mk name status requests (.mk auth true run :: pending) :: earlier) none

theorem closes_eq_true_iff {auth : String} {run : RunReport} {event : Event} :
    closes auth run event = true ↔ run.openAuth = none ∧ event = .authFinished auth := by
  cases event <;> simp [closes]

end RunReport

/-! ## Runs in a report -/

/-- The runs of a playbook's acquisitions: of those that wait, and of those that its requests
have taken. -/
def PlaybookReport.inner (playbook : PlaybookReport) : List RunReport :=
  (playbook.pending ++ playbook.requests.flatMap RequestReport.auth).map AuthReport.run

namespace RunReport

def inner (report : RunReport) : List RunReport :=
  report.playbooks.flatMap PlaybookReport.inner

/-- A report contains itself and what the runs of its acquisitions contain. -/
inductive Contains : RunReport → RunReport → Prop where
  | self {report : RunReport} : Contains report report
  | inside {report inner run : RunReport} (member : inner ∈ report.inner)
      (contains : Contains inner run) : Contains report run

/-- If the cursor names an acquisition, then there is a newest playbook, acquisitions wait in
it, and the newest of these has that name and is not finished. -/
def CursorKept (run : RunReport) : Prop :=
  ∀ current, run.openAuth = some current → ∃ playbook earlier auth pending,
    run.playbooks = playbook :: earlier ∧ playbook.pending = auth :: pending ∧
      auth.name = current ∧ auth.finished = false

def KeptThroughout (report : RunReport) : Prop :=
  ∀ run, report.Contains run → run.CursorKept

theorem Contains.trans {outer inner run : RunReport} (toInner : outer.Contains inner)
    (toRun : inner.Contains run) : outer.Contains run := by
  induction toInner with
  | self => exact toRun
  | inside member _ inductionHypothesis => exact .inside member (inductionHypothesis toRun)

theorem KeptThroughout.of_contains {report run : RunReport} (kept : report.KeptThroughout)
    (contains : report.Contains run) : run.KeptThroughout :=
  fun inner within => kept inner (contains.trans within)

theorem cursorKept_none (playbooks : List PlaybookReport) :
    CursorKept (.mk playbooks none) :=
  fun _ isOpen => nomatch isOpen

@[simp]
theorem cursorKept_some_iff {name : String} {status : ReportStatus}
    {requests : List RequestReport} {pending : List AuthReport} {earlier : List PlaybookReport}
    {auth current : String} {finished : Bool} {run : RunReport} :
    CursorKept (.mk (.mk name status requests (.mk auth finished run :: pending) :: earlier)
        (some current)) ↔ auth = current ∧ finished = false := by
  simp [CursorKept, RunReport.openAuth, RunReport.playbooks, PlaybookReport.pending,
    AuthReport.name, AuthReport.finished]

theorem keptThroughout_iff {report : RunReport} :
    report.KeptThroughout ↔
      report.CursorKept ∧ ∀ inner ∈ report.inner, inner.KeptThroughout := by
  constructor
  · intro kept
    exact ⟨kept report .self, fun inner member run contains =>
      kept run (.inside member contains)⟩
  · intro ⟨cursor, inside⟩ run contains
    cases contains with
    | self => exact cursor
    | inside member contains => exact inside _ member run contains

theorem inner_opened (name : String) (status : ReportStatus) (requests : List RequestReport)
    (pending : List AuthReport) (earlier : List PlaybookReport) (auth : String)
    (run : RunReport) :
    (opened name status requests pending earlier auth run).inner =
      run :: (RunReport.mk (.mk name status requests pending :: earlier) none).inner := rfl

/-! ## The step as a relation -/

/-- An event changes a report: where no acquisition is open, by what it tells; where one is
open, by ending it, if nothing is open inside of it; or only inside of it. -/
inductive Advances (event : Event) : RunReport → RunReport → Prop where
  | here {playbooks : List PlaybookReport} :
      Advances event (.mk playbooks none) (applyHere playbooks event)
  | finishes {name : String} {status : ReportStatus} {requests : List RequestReport}
      {pending : List AuthReport} {earlier : List PlaybookReport} {auth : String}
      {run : RunReport} (innermost : run.openAuth = none) (ends : event = .authFinished auth) :
      Advances event (opened name status requests pending earlier auth run)
        (ended name status requests pending earlier auth run)
  | inside {name : String} {status : ReportStatus} {requests : List RequestReport}
      {pending : List AuthReport} {earlier : List PlaybookReport} {auth : String}
      {run after : RunReport} (stays : run.openAuth = none → event ≠ .authFinished auth)
      (advances : Advances event run after) :
      Advances event (opened name status requests pending earlier auth run)
        (opened name status requests pending earlier auth after)

/-- Under the invariant of the cursor, every event is such a step. -/
theorem advances_apply {report : RunReport} (kept : report.KeptThroughout) (event : Event) :
    Advances event report (report.apply event) := by
  fun_induction apply report event with
  | case1 name status requests auth finished run pending earlier current event closing =>
      obtain ⟨rfl, rfl⟩ := cursorKept_some_iff.1 (keptThroughout_iff.1 kept).1
      obtain ⟨innermost, ends⟩ := closes_eq_true_iff.1 closing
      exact .finishes innermost ends
  | case2 name status requests auth finished run pending earlier current event stays ih =>
      obtain ⟨rfl, rfl⟩ := cursorKept_some_iff.1 (keptThroughout_iff.1 kept).1
      have inside : run.KeptThroughout := (keptThroughout_iff.1 kept).2 run List.mem_cons_self
      refine .inside (fun innermost ends => stays ?_) (ih inside)
      exact closes_eq_true_iff.2 ⟨innermost, ends⟩
  | case3 playbooks current event noAuth =>
      cases current with
      | none => exact .here
      | some current =>
          -- A cursor without an acquisition is what the invariant excludes.
          obtain ⟨playbook, earlier, auth, pending, there, waits, -, -⟩ :=
            (keptThroughout_iff.1 kept).1 current rfl
          obtain ⟨name, status, requests, all⟩ := playbook
          obtain ⟨auth, finished, run⟩ := auth
          simp only [RunReport.playbooks, PlaybookReport.pending] at there waits
          subst there waits
          exact (noAuth _ _ _ _ _ _ _ _ _ rfl rfl).elim

/-! ## The invariant -/

theorem cursorKept_applyHere (playbooks : List PlaybookReport) (event : Event) :
    (applyHere playbooks event).CursorKept := by
  cases event with
  | authStarted auth =>
      cases playbooks with
      | nil => exact cursorKept_none []
      | cons playbook earlier =>
          obtain ⟨name, status, requests, pending⟩ := playbook
          simp [applyHere, startAuth]
  | _ => exact cursorKept_none _

@[simp]
theorem inner_startRequest (target : Option Target) (playbooks : List PlaybookReport) :
    (RunReport.mk (startRequest target playbooks) none).inner =
      (RunReport.mk playbooks none).inner := by
  cases playbooks with
  | nil => rfl
  | cons playbook earlier => cases playbook; rfl

@[simp]
theorem inner_recordFacts (event : Event) (playbooks : List PlaybookReport) :
    (RunReport.mk (recordFacts event playbooks) none).inner =
      (RunReport.mk playbooks none).inner := by
  fun_cases recordFacts event playbooks <;> rfl

@[simp]
theorem inner_close (status : ReportStatus) (playbooks : List PlaybookReport) :
    (RunReport.mk (close status playbooks) none).inner =
      (RunReport.mk playbooks none).inner := by
  cases playbooks with
  | nil => rfl
  | cons playbook earlier => cases playbook; rfl

/-- An event outside of acquisitions makes no run but an empty one. -/
theorem inner_applyHere (playbooks : List PlaybookReport) (event : Event) :
    ∀ run ∈ (applyHere playbooks event).inner,
      run = empty ∨ run ∈ (RunReport.mk playbooks none).inner := by
  intro run member
  cases event with
  | playbookStarted name => exact .inr member
  | authStarted auth =>
      cases playbooks with
      | nil => exact .inr member
      | cons playbook earlier => cases playbook; exact List.mem_cons.1 member
  | _ =>
      simp only [applyHere, inner_startRequest, inner_recordFacts, inner_close] at member
      exact .inr member

theorem keptThroughout_empty : empty.KeptThroughout := by
  apply keptThroughout_iff.2
  simp [empty, cursorKept_none, inner, RunReport.playbooks]

theorem Advances.keptThroughout {event : Event} {report after : RunReport}
    (advances : Advances event report after) (kept : report.KeptThroughout) :
    after.KeptThroughout := by
  apply keptThroughout_iff.2
  induction advances with
  | here =>
      refine ⟨cursorKept_applyHere _ _, fun run member => ?_⟩
      rcases inner_applyHere _ _ run member with rfl | already
      · exact keptThroughout_empty
      · exact (keptThroughout_iff.1 kept).2 run already
  | finishes innermost ends =>
      exact ⟨cursorKept_none _, (keptThroughout_iff.1 kept).2⟩
  | inside stays advances inductionHypothesis =>
      obtain ⟨cursor, within⟩ := keptThroughout_iff.1 kept
      rw [inner_opened, List.forall_mem_cons] at within
      refine ⟨by simp [opened], ?_⟩
      rw [inner_opened, List.forall_mem_cons]
      exact ⟨keptThroughout_iff.2 (inductionHypothesis within.1), within.2⟩

theorem keptThroughout_foldl {report : RunReport} (kept : report.KeptThroughout)
    (events : List Event) : (events.foldl apply report).KeptThroughout := by
  induction events generalizing report with
  | nil => exact kept
  | cons event rest inductionHypothesis =>
      exact inductionHypothesis ((advances_apply kept event).keptThroughout kept)

theorem keptThroughout_ofEvents (events : List Event) : (ofEvents events).KeptThroughout :=
  keptThroughout_foldl keptThroughout_empty events

end RunReport

end RequestFlow
