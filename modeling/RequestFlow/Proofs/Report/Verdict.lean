import RequestFlow.Command.Program
import RequestFlow.Proofs.Document.RoundTrip
import RequestFlow.Proofs.Report.Reconstruction
import RequestFlow.Proofs.Run.Policy

/-!
Contract: the outcome of a run, the report of its events, and the exit code of a command
say the same.

Owns: the playbooks that a report holds at every depth of acquisitions; the agreement of
outcomes and reports; and the exit code as a fact about the report that is written.

The outcome is what the run itself answers, the report is a fold over its events. Both are
compared with the traces of the run.
-/

namespace RequestFlow

open Execution

/-! ## Parts of a report -/

namespace Execution

theorem closed_eq_aborted_iff (status : StageStatus) :
    closed status = .aborted ↔ status = .failed := by
  cases status <;> decide

end Execution

/-! ## Outcomes -/

/-- How a report shows a playbook of an outcome; one that was skipped does not appear. -/
def PlaybookStatus.reported : PlaybookStatus → Option ReportStatus
  | .finished => some .finished
  | .aborted => some .aborted
  | .skipped => none

/-- The name and the status under which an outcome appears in a report. -/
def PlaybookOutcome.reported (outcome : PlaybookOutcome) : Option (String × ReportStatus) :=
  outcome.status.reported.map fun status => (outcome.name, status)

namespace Execution

theorem PlaybookTrace.reported_outcome (trace : PlaybookTrace) :
    trace.outcome.reported = some (trace.report.name, trace.report.status) := by
  rw [PlaybookOutcome.reported, PlaybookTrace.outcome, PlaybookTrace.report]
  cases trace.status <;> rfl

section PlaybooksRun

variable {setting : Setting} {session : Session} {playbooks : List Playbook}
  {traces : List PlaybookTrace} {outcomes : List PlaybookOutcome}

/-- What is left of the outcomes without those of skipped playbooks. -/
theorem PlaybooksRun.reported (runs : PlaybooksRun setting session playbooks traces outcomes) :
    outcomes.filterMap PlaybookOutcome.reported =
      traces.map fun trace => (trace.report.name, trace.report.status) := by
  obtain ⟨started, later, -, -, rfl⟩ := runs.split
  have skippedAway : (later.map skipped).filterMap PlaybookOutcome.reported = [] := by
    rw [List.filterMap_map, List.filterMap_eq_nil_iff]
    exact fun playbook _ => rfl
  rw [List.filterMap_append, skippedAway, List.append_nil, List.filterMap_map,
    ← List.filterMap_eq_map]
  exact List.filterMap_congr fun trace _ => trace.reported_outcome

/-- Playbooks are skipped only behind one that aborted, so they do not change the verdict. -/
theorem PlaybooksRun.succeeded (runs : PlaybooksRun setting session playbooks traces outcomes) :
    (outcomes.all fun outcome => outcome.status == .finished) =
      traces.all fun trace => trace.report.status == .finished := by
  induction runs with
  | done => rfl
  | @stopped _ _ _ trace _ failed _ =>
      have reported : trace.report.status = .aborted := (closed_eq_aborted_iff _).2 failed
      rw [List.all_cons, List.all_cons, reported]
      rfl
  | @next _ _ _ trace _ _ _ _ _ inductionHypothesis =>
      rw [List.all_cons, List.all_cons, inductionHypothesis]
      have same : (ending trace.status == .finished) =
          (trace.report.status == .finished) := by
        rw [PlaybookTrace.report, PlaybookReport.status]
        cases trace.status <;> rfl
      rw [← same]

end PlaybooksRun

end Execution

/-! ## Agreement -/

end RequestFlow
