import RequestFlow.Proofs.Acquisition.Termination
import RequestFlow.Proofs.Report.Cursor
import RequestFlow.Proofs.Run.Tracing

/-!
Contract: the report of a run is the tree of the run.

Owns: the report that a trace should have, which is read off the trace and takes the
facts of a request from the request's own events; and the proof that the events of a trace
fold to it, at every depth of acquisitions.

The fold sees no tree. It gives each event to the innermost acquisition that is open, and
closes that one by its name. So the invariant of the fold is that no event finishes an
acquisition unless one is open in the same report: such events may be folded inside of an
open acquisition just as well, whatever its name.
-/

namespace RequestFlow

open Execution

/-! ## The report of a trace -/

/-- What the events of one request tell, each payload where the events have it. -/
def RequestFacts.told (events : List Event) : RequestFacts where
  target := events.findSome? fun
    | .requestStarted target => target
    | _ => none
  found := (events.findSome? fun
    | .variablesSubstituted _ found _ => some found
    | _ => none).getD []
  missing := (events.findSome? fun
    | .variablesSubstituted _ _ missing => some missing
    | _ => none).getD []
  operationId := events.findSome? fun
    | .requestPrepared _ operationId => operationId
    | _ => none
  request := events.findSome? fun
    | .requestPrepared request _ => some request
    | _ => none
  prepareError := events.findSome? fun
    | .prepareFailed error => some error.message
    | _ => none
  response := events.findSome? fun
    | .responseReceived response => some response
    | _ => none
  error := events.findSome? fun
    | .transportFailed error => some error
    | _ => none
  assigned := events.filterMap fun
    | .variablesAssigned scope => some scope
    | _ => none
  assignmentFailures := events.filterMap fun
    | .assignmentFailed name error => some ⟨name, error⟩
    | _ => none

namespace Execution

def AuthTrace.entry : AuthTrace → String
  | .unmet entry | .direct entry _ | .staged entry _ _ => entry

/-- The events between the start and the end of an acquisition. -/
def AuthTrace.inside : AuthTrace → List Event
  | .unmet _ | .direct .. => []
  | .staged _ playbook _ => playbook.events

/-- The acquisition as its stage's report has it: finished, with the report of the events
inside of it. -/
def AuthTrace.report (acquisition : AuthTrace) : AuthReport :=
  .mk acquisition.entry true (.ofEvents acquisition.inside)

namespace StageTrace

/-- The events of a stage after those of its acquisitions. -/
def ownEvents : StageTrace → List Event
  | .unresolved stage error =>
      [.requestStarted stage.target?, .prepareFailed (.unresolved error)]
  | .resolved stage _ request attempt =>
      .requestStarted stage.target? ::
        .variablesSubstituted request.stack request.seen.found request.seen.missing ::
          eventsOf attempt.acts

/-- Reports list the newest first. -/
def report (stage : StageTrace) : RequestReport :=
  .mk (.told stage.ownEvents) (stage.auth.map AuthTrace.report).reverse

end StageTrace

/-- How a playbook of which all stages are over is reported. -/
def closed : StageStatus → ReportStatus
  | .completed => .finished
  | .failed => .aborted

def PlaybookTrace.report (playbook : PlaybookTrace) : PlaybookReport :=
  .mk playbook.name (closed playbook.status)
    (playbook.stages.map StageTrace.report).reverse []

end Execution

/-! ## Events that fold on their own -/

namespace RunReport

theorem apply_closed (playbooks : List PlaybookReport) (event : Event) :
    apply (.mk playbooks none) event = applyHere playbooks event := by
  cases playbooks with
  | nil => rfl
  | cons playbook earlier =>
      obtain ⟨name, status, requests, pending⟩ := playbook
      cases pending with
      | nil => rfl
      | cons first pending =>
          obtain ⟨auth, finished, run⟩ := first
          rfl

/-- The events lead from a report to another one, and none of them would close an open
acquisition that the report is of. -/
inductive Folds : RunReport → List Event → RunReport → Prop where
  | done {report : RunReport} : Folds report [] report
  | next {report after : RunReport} {event : Event} {events : List Event}
      (inner : ∀ auth, closes auth report event = false)
      (rest : Folds (report.apply event) events after) :
      Folds report (event :: events) after

namespace Folds

theorem append {first between last : RunReport} {events more : List Event}
    (folds : Folds first events between) (next : Folds between more last) :
    Folds first (events ++ more) last := by
  induction folds with
  | done => exact next
  | next inner _ inductionHypothesis => exact .next inner (inductionHypothesis next)

theorem foldl_eq {first last : RunReport} {events : List Event}
    (folds : Folds first events last) : events.foldl apply first = last := by
  induction folds with
  | done => rfl
  | next _ _ inductionHypothesis => exact inductionHypothesis

/-- One event, while no acquisition is open. -/
theorem here {playbooks : List PlaybookReport} {after : RunReport} {event : Event}
    (inner : ∀ auth, closes auth (.mk playbooks none) event = false)
    (applied : applyHere playbooks event = after) :
    Folds (.mk playbooks none) [event] after := by
  refine .next inner ?_
  rw [apply_closed, applied]
  exact .done

end Folds

section Opened

variable {name : String} {status : ReportStatus} {requests : List RequestReport}
  {pending : List AuthReport} {earlier : List PlaybookReport} {auth : String}

theorem closes_opened (run : RunReport) (event : Event) (outer : String) :
    closes outer (opened name status requests pending earlier auth run) event = false := by
  cases event <;> rfl

theorem apply_opened {run : RunReport} {event : Event} (inner : closes auth run event = false) :
    apply (opened name status requests pending earlier auth run) event =
      opened name status requests pending earlier auth (apply run event) := by
  simp only [opened, apply, inner, Bool.false_eq_true, if_false]

/-- What folds on its own goes into the report of the acquisition that is open. -/
theorem Folds.opened {run after : RunReport} {events : List Event}
    (folds : Folds run events after) :
    Folds (opened name status requests pending earlier auth run) events
      (opened name status requests pending earlier auth after) := by
  induction folds with
  | done => exact .done
  | next inner _ inductionHypothesis =>
      refine .next (closes_opened _ _) ?_
      rw [apply_opened (inner auth)]
      exact inductionHypothesis

theorem apply_finish {playbooks : List PlaybookReport} :
    apply (opened name status requests pending earlier auth (.mk playbooks none))
        (.authFinished auth) =
      .mk (.mk name status requests (.mk auth true (.mk playbooks none) :: pending) :: earlier)
        none := by
  simp only [opened, apply, closes, openAuth, Option.isNone_none, beq_self_eq_true,
    Bool.and_self, if_true]

end Opened

end RunReport

/-! ## The events of a request -/

/-- Whether an event tells something of a request that was started. -/
def Event.ofRequest : Event → Bool
  | .variablesSubstituted .. | .requestPrepared .. | .prepareFailed _ | .responseReceived _
  | .transportFailed _ | .variablesAssigned _ | .assignmentFailed .. => true
  | .playbookStarted _ | .requestStarted _ | .authStarted _ | .authFinished _
  | .playbookFinished _ | .playbookAborted _ => false

section Request

variable {name : String} {status : ReportStatus} {requests : List RequestReport}
  {auth pending : List AuthReport} {earlier : List PlaybookReport}

open RunReport

theorem folds_ofRequest {facts : RequestFacts} {events : List Event}
    (ofRequest : ∀ event ∈ events, event.ofRequest = true) :
    Folds (.mk (.mk name status (.mk facts auth :: requests) pending :: earlier) none) events
      (.mk (.mk name status (.mk (events.foldl RequestFacts.record facts) auth :: requests)
        pending :: earlier) none) := by
  induction events generalizing facts with
  | nil => exact .done
  | cons event rest inductionHypothesis =>
      have first := ofRequest event List.mem_cons_self
      have later := fun other member => ofRequest other (List.mem_cons_of_mem event member)
      have step : applyHere
          (.mk name status (.mk facts auth :: requests) pending :: earlier) event =
          .mk (.mk name status (.mk (facts.record event) auth :: requests) pending ::
            earlier) none := by
        cases event <;> first | rfl | cases first
      refine Folds.append (.here ?_ step) (inductionHypothesis later)
      cases event <;> first | exact fun _ => rfl | cases first

/-- The events of a request from its start on, which takes the acquisitions that wait. -/
theorem folds_request {target : Option Target} {events : List Event}
    (ofRequest : ∀ event ∈ events, event.ofRequest = true) :
    Folds (.mk (.mk name status requests pending :: earlier) none)
      (.requestStarted target :: events)
      (.mk (.mk name status
        (.mk (events.foldl RequestFacts.record (.started target)) pending :: requests) [] ::
          earlier) none) := by
  have started : Folds (.mk (.mk name status requests pending :: earlier) none)
      [.requestStarted target]
      (.mk (.mk name status (.mk (.started target) pending :: requests) [] :: earlier) none) :=
    .here (fun _ => rfl) rfl
  exact started.append (folds_ofRequest ofRequest)

end Request

theorem foldl_record_failures (facts : RequestFacts) (failures : List AssignmentFailure) :
    (failures.map Attempt.failureEvent).foldl RequestFacts.record facts =
      { facts with assignmentFailures := facts.assignmentFailures ++ failures } := by
  induction failures generalizing facts with
  | nil => simp
  | cons failure rest inductionHypothesis =>
      rw [List.map_cons, List.foldl_cons, inductionHypothesis]
      simp [Attempt.failureEvent, RequestFacts.record]

theorem told_answered (target : Option Target) (stack : ScopeStack)
    (found missing : List String) (request : HttpRequest) (operationId : Option String)
    (response : HttpResponse) (assigned : Option Scope) (failures : List AssignmentFailure) :
    RequestFacts.told (.requestStarted target :: .variablesSubstituted stack found missing ::
        .requestPrepared request operationId :: .responseReceived response ::
          ((assigned.map Event.variablesAssigned).toList ++
            failures.map Attempt.failureEvent)) =
      ⟨target, found, missing, operationId, some request, none, some response, none,
        assigned.toList, failures⟩ := by
  cases assigned <;> cases target <;> cases operationId <;>
    simp [RequestFacts.told, Attempt.failureEvent, List.findSome?_map, Function.comp_def]

/-- What the events of a request tell is what adding them one by one gives. -/
theorem told_eq_foldl_record (target : Option Target) (stack : ScopeStack)
    (found missing : List String) (attempt : Attempt) :
    RequestFacts.told (.requestStarted target :: .variablesSubstituted stack found missing ::
        eventsOf attempt.acts) =
      (.variablesSubstituted stack found missing :: eventsOf attempt.acts).foldl
        RequestFacts.record (.started target) := by
  cases attempt with
  | unprepared error => cases target <;> rfl
  | unanswered request operationId error => cases target <;> cases operationId <;> rfl
  | answered request operationId response assigned failures =>
      rw [Attempt.events_answered, told_answered]
      simp only [List.foldl_cons, List.foldl_append, foldl_record_failures]
      cases assigned <;> rfl

theorem ofRequest_attempt (attempt : Attempt) :
    ∀ event ∈ eventsOf attempt.acts, event.ofRequest = true := by
  cases attempt with
  | unprepared error => simp [Attempt.acts, Event.ofRequest]
  | unanswered request operationId error => simp [Attempt.acts, Event.ofRequest]
  | answered request operationId response assigned failures =>
      rw [Attempt.events_answered]
      cases assigned <;> simp [Event.ofRequest, Attempt.failureEvent]

/-! ## Traces fold to their reports -/

namespace Execution

section Traces

open RunReport

variable {name : String} {requests : List RequestReport} {pending : List AuthReport}
  {earlier : List PlaybookReport}

theorem folds_ownEvents (stage : StageTrace) :
    Folds (.mk (.mk name .running requests pending :: earlier) none) stage.ownEvents
      (.mk (.mk name .running (.mk (.told stage.ownEvents) pending :: requests) [] ::
        earlier) none) := by
  cases stage with
  | unresolved stage error =>
      have told : RequestFacts.told (StageTrace.unresolved stage error).ownEvents =
          [.prepareFailed (.unresolved error)].foldl RequestFacts.record
            (.started stage.target?) := by
        cases stage <;> rfl
      rw [told]
      exact folds_request (by simp [Event.ofRequest])
  | resolved stage auth request attempt =>
      have told := told_eq_foldl_record stage.target? request.stack request.seen.found
        request.seen.missing attempt
      rw [StageTrace.ownEvents, told]
      exact folds_request (List.forall_mem_cons.2 ⟨rfl, ofRequest_attempt attempt⟩)

theorem StageTrace.events_eq (stage : StageTrace) :
    eventsOf stage.acts = eventsOf (authActs stage.auth) ++ stage.ownEvents := by
  cases stage with
  | unresolved stage error => rfl
  | resolved stage auth request attempt =>
      rw [StageTrace.acts, eventsOf_append]
      rfl

/-- What is inside of an acquisition stands between its start and its end. -/
theorem AuthTrace.events_eq (acquisition : AuthTrace) :
    eventsOf acquisition.acts =
      .authStarted acquisition.entry ::
        (acquisition.inside ++ [.authFinished acquisition.entry]) := by
  cases acquisition with
  | unmet entry => rfl
  | direct entry scope => rfl
  | staged entry playbook scope =>
      rw [AuthTrace.acts, eventsOf_tell, eventsOf_append]
      rfl

/-- An acquisition, if the events inside of it fold on their own to closed reports. -/
theorem folds_acquisition (acquisition : AuthTrace) {playbooks : List PlaybookReport}
    (inside : Folds .empty acquisition.inside (.mk playbooks none)) :
    Folds (.mk (.mk name .running requests pending :: earlier) none)
      (eventsOf acquisition.acts)
      (.mk (.mk name .running requests (acquisition.report :: pending) :: earlier) none) := by
  have started : Folds (.mk (.mk name .running requests pending :: earlier) none)
      [.authStarted acquisition.entry]
      (opened name .running requests pending earlier acquisition.entry .empty) :=
    .here (fun _ => rfl) rfl
  have finished : Folds
      (opened name .running requests pending earlier acquisition.entry (.mk playbooks none))
      [.authFinished acquisition.entry]
      (.mk (.mk name .running requests (acquisition.report :: pending) :: earlier) none) := by
    refine .next (closes_opened _ _) ?_
    rw [apply_finish, AuthTrace.report, ofEvents, inside.foldl_eq]
    exact .done
  rw [AuthTrace.events_eq]
  exact started.append (inside.opened.append finished)

end Traces

open RunReport

mutual

theorem PlaybookTrace.folds (earlier : List PlaybookReport) :
    (playbook : PlaybookTrace) →
      Folds (.mk earlier none) playbook.events (.mk (playbook.report :: earlier) none)
  | .mk name stages => by
      have started : Folds (.mk earlier none) [.playbookStarted name]
          (.mk (.mk name .running [] [] :: earlier) none) := .here (fun _ => rfl) rfl
      have inside := stages_fold name earlier [] stages
      have ended : Folds
          (.mk (.mk name .running ((stages.map StageTrace.report).reverse ++ []) [] :: earlier)
            none)
          [closing name (statusOfStages stages)]
          (.mk (PlaybookTrace.report (.mk name stages) :: earlier) none) := by
        rw [List.append_nil, PlaybookTrace.report, PlaybookTrace.status, PlaybookTrace.stages]
        cases statusOfStages stages <;> exact .here (fun _ => rfl) rfl
      rw [PlaybookTrace.events, PlaybookTrace.acts, eventsOf_tell, eventsOf_append]
      exact started.append (inside.append ended)

theorem stages_fold (name : String) (earlier : List PlaybookReport)
    (requests : List RequestReport) : (stages : List StageTrace) →
      Folds (.mk (.mk name .running requests [] :: earlier) none)
        (eventsOf (stagesActs stages))
        (.mk (.mk name .running ((stages.map StageTrace.report).reverse ++ requests) [] ::
          earlier) none)
  | [] => .done
  | stage :: rest => by
      rw [stagesActs, eventsOf_append, List.map_cons, List.reverse_cons, List.append_assoc]
      exact (stage.folds name earlier requests).append
        (stages_fold name earlier (stage.report :: requests) rest)

theorem StageTrace.folds (name : String) (earlier : List PlaybookReport)
    (requests : List RequestReport) : (stage : StageTrace) →
      Folds (.mk (.mk name .running requests [] :: earlier) none) (eventsOf stage.acts)
        (.mk (.mk name .running (stage.report :: requests) [] :: earlier) none)
  | .unresolved stage error => folds_ownEvents (.unresolved stage error)
  | .resolved stage auth request attempt => by
      have acquired := auth_fold name earlier requests [] auth
      rw [List.append_nil] at acquired
      rw [StageTrace.events_eq]
      exact acquired.append (folds_ownEvents (.resolved stage auth request attempt))

theorem auth_fold (name : String) (earlier : List PlaybookReport)
    (requests : List RequestReport) (pending : List AuthReport) : (auth : List AuthTrace) →
      Folds (.mk (.mk name .running requests pending :: earlier) none)
        (eventsOf (authActs auth))
        (.mk (.mk name .running requests ((auth.map AuthTrace.report).reverse ++ pending) ::
          earlier) none)
  | [] => .done
  | first :: rest => by
      rw [authActs, eventsOf_append, List.map_cons, List.reverse_cons, List.append_assoc]
      exact (first.folds name earlier requests pending).append
        (auth_fold name earlier requests (first.report :: pending) rest)

theorem AuthTrace.folds (name : String) (earlier : List PlaybookReport)
    (requests : List RequestReport) (pending : List AuthReport) : (acquisition : AuthTrace) →
      Folds (.mk (.mk name .running requests pending :: earlier) none)
        (eventsOf acquisition.acts)
        (.mk (.mk name .running requests (acquisition.report :: pending) :: earlier) none)
  | .unmet entry => folds_acquisition (.unmet entry) .done
  | .direct entry scope => folds_acquisition (.direct entry scope) .done
  | .staged entry playbook scope =>
      folds_acquisition (.staged entry playbook scope) (playbook.folds [])

end

theorem playbooks_fold (earlier : List PlaybookReport) (traces : List PlaybookTrace) :
    Folds (.mk earlier none) (traces.flatMap PlaybookTrace.events)
      (.mk ((traces.map PlaybookTrace.report).reverse ++ earlier) none) := by
  induction traces generalizing earlier with
  | nil => exact .done
  | cons trace rest inductionHypothesis =>
      rw [List.flatMap_cons, List.map_cons, List.reverse_cons, List.append_assoc]
      exact (trace.folds earlier).append (inductionHypothesis _)

/-- The events of traces fold to the reports of the traces. -/
theorem ofEvents_traces (traces : List PlaybookTrace) :
    ofEvents (traces.flatMap PlaybookTrace.events) =
      .mk (traces.map PlaybookTrace.report).reverse none := by
  have folded := (playbooks_fold [] traces).foldl_eq
  rwa [List.append_nil] at folded

end Execution

/-! ## The reports of runs -/

/-- The events of a run that ends fold to the reports of its traces: a report for each
playbook that was run, with a report for each stage that was run, with a report for each
acquisition, which has the fold of the events inside of it. A stage has its acquisitions
and then its own events, an acquisition has its start, the events inside of it and its end.
What is inside folds in the same way, so that the reports of acquisitions are trees of
their traces too, however deep they lie. -/
theorem Run.report_eq_tree {setting : Setting} {depth : Nat} {playbooks : List Playbook}
    {seed : ScopeStack} {run : Run}
    (ended : Run.within depth setting playbooks seed = some run) :
    (∃ traces, PlaybooksRun setting (.start seed) playbooks traces run.outcome.playbooks ∧
      run.events = traces.flatMap PlaybookTrace.events ∧
      RunReport.ofEvents run.events = .mk (traces.map PlaybookTrace.report).reverse none) ∧
      (∀ stage : StageTrace,
        eventsOf stage.acts = eventsOf (authActs stage.auth) ++ stage.ownEvents) ∧
      (∀ acquisition : AuthTrace,
        eventsOf acquisition.acts = .authStarted acquisition.entry ::
          (acquisition.inside ++ [.authFinished acquisition.entry])) ∧
      ∀ nested : PlaybookTrace, RunReport.ofEvents nested.events = .mk [nested.report] none := by
  refine ⟨?_, StageTrace.events_eq, AuthTrace.events_eq, ?_⟩
  · obtain ⟨traces, runs, -, events⟩ := Run.traced ended
    refine ⟨traces, runs, events, ?_⟩
    rw [events]
    exact ofEvents_traces traces
  · intro nested
    have single := ofEvents_traces [nested]
    rwa [List.flatMap_singleton] at single

/-- The report of the run of a request that asks for a login. -/
theorem loginAsked_report_eq_tree :
    ∃ run, Run.within 4 loginSetting loginAsked .empty = some run ∧
      ∃ traces : List PlaybookTrace,
        RunReport.ofEvents run.events = .mk (traces.map PlaybookTrace.report).reverse none := by
  obtain ⟨run, ended⟩ := exists_run_loginAsked
  obtain ⟨⟨traces, -, -, report⟩, -⟩ := Run.report_eq_tree ended
  exact ⟨run, ended, traces, report⟩

end RequestFlow
