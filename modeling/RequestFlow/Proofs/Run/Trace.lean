import RequestFlow.Report.Basic
import RequestFlow.Run.Execution

/-!
Contract: the traces of runs.

Owns: the acts that a run consists of, the trees of playbooks, stages and acquisitions
that order them, and the relation between a part of a run and its trace. The relation
has one rule for each way in which a part can go on, so that a fact about runs is an
induction over its rules.

In a trace the scopes of an acquisition are pushed where they arise. That the work on
copies of the stack comes to the same is shown in `Proofs.Run.Tracing`.
-/

namespace RequestFlow.Execution

/-! ## Acts -/

/-- What a run does in one step. The tokens of a stage's request are replaced and told
of in one act, which knows the stage. -/
inductive Act where
  | tell (event : Event)
  | substitute (stage : Stage) (request : StageRequest)
  | push (scope : Scope)
  | send (request : HttpRequest)

namespace Act

def event? : Act → Option Event
  | .tell event => some event
  | .substitute _ request =>
      some (.variablesSubstituted request.stack request.seen.found request.seen.missing)
  | .push _ | .send _ => none

def scope? : Act → Option Scope
  | .push scope => some scope
  | .tell _ | .substitute .. | .send _ => none

def request? : Act → Option HttpRequest
  | .send request => some request
  | .tell _ | .substitute .. | .push _ => none

end Act

/-- The events that acts tell. -/
def eventsOf (acts : List Act) : List Event := acts.filterMap Act.event?

section EventsOf

variable (acts later : List Act)

@[simp] theorem eventsOf_nil : eventsOf [] = [] := rfl

@[simp] theorem eventsOf_tell (event : Event) :
    eventsOf (.tell event :: acts) = event :: eventsOf acts := rfl

@[simp] theorem eventsOf_substitute (stage : Stage) (request : StageRequest) :
    eventsOf (.substitute stage request :: acts) =
      .variablesSubstituted request.stack request.seen.found request.seen.missing ::
        eventsOf acts := rfl

@[simp] theorem eventsOf_push (scope : Scope) :
    eventsOf (.push scope :: acts) = eventsOf acts := rfl

@[simp] theorem eventsOf_send (request : HttpRequest) :
    eventsOf (.send request :: acts) = eventsOf acts := rfl

@[simp] theorem eventsOf_append :
    eventsOf (acts ++ later) = eventsOf acts ++ eventsOf later :=
  List.filterMap_append

end EventsOf

namespace Session

def act (session : Session) : Act → Session
  | .tell event => session.tell event
  | .substitute _ request =>
      session.tell (.variablesSubstituted request.stack request.seen.found request.seen.missing)
  | .push scope => session.push scope
  | .send request => session.recordSent request

def perform (session : Session) (acts : List Act) : Session := acts.foldl act session

@[simp] theorem perform_nil (session : Session) : session.perform [] = session := rfl

@[simp] theorem perform_cons (session : Session) (act : Act) (acts : List Act) :
    session.perform (act :: acts) = (session.act act).perform acts := rfl

@[simp] theorem perform_append (session : Session) (first second : List Act) :
    session.perform (first ++ second) = (session.perform first).perform second :=
  List.foldl_append

theorem events_perform (session : Session) (acts : List Act) :
    (session.perform acts).events = session.events ++ eventsOf acts := by
  induction acts generalizing session with
  | nil => simp
  | cons act acts inductionHypothesis =>
      rw [perform_cons, inductionHypothesis]
      cases act <;> simp [Session.act, tell, push, recordSent]

theorem scopes_perform (session : Session) (acts : List Act) :
    (session.perform acts).stack.scopes =
      session.stack.scopes ++ acts.filterMap Act.scope? := by
  induction acts generalizing session with
  | nil => simp
  | cons act acts inductionHypothesis =>
      rw [perform_cons, inductionHypothesis]
      cases act <;>
        simp [List.filterMap_cons, Session.act, Act.scope?, tell, push, ScopeStack.push,
          recordSent]

theorem sent_perform (session : Session) (acts : List Act) :
    (session.perform acts).sent = session.sent ++ acts.filterMap Act.request? := by
  induction acts generalizing session with
  | nil => simp
  | cons act acts inductionHypothesis =>
      rw [perform_cons, inductionHypothesis]
      cases act <;>
        simp [List.filterMap_cons, Session.act, Act.request?, tell, push, recordSent]

end Session

/-! ## Traces -/

/-- How a stage's request ended: it was not sent, it got no response, or it got one,
from which rules set variables. -/
inductive Attempt where
  | unprepared (error : StageError)
  | unanswered (request : HttpRequest) (operationId : Option String) (error : TransportError)
  | answered (request : HttpRequest) (operationId : Option String) (response : HttpResponse)
      (assigned : Option Scope) (failures : List AssignmentFailure)

namespace Attempt

def status : Attempt → StageStatus
  | .unprepared _ | .unanswered .. => .failed
  | .answered .. => .completed

/-- A scope that rules set is pushed and told of. -/
def assignedActs : Option Scope → List Act
  | none => []
  | some scope => [.push scope, .tell (.variablesAssigned scope)]

def failureEvent (failure : AssignmentFailure) : Event :=
  .assignmentFailed failure.name failure.error

def acts : Attempt → List Act
  | .unprepared error => [.tell (.prepareFailed error)]
  | .unanswered request operationId error =>
      [.tell (.requestPrepared request operationId), .send request,
        .tell (.transportFailed error)]
  | .answered request operationId response assigned failures =>
      [.tell (.requestPrepared request operationId), .send request,
        .tell (.responseReceived response)] ++
        (assignedActs assigned ++ failures.map fun failure => .tell (failureEvent failure))

theorem eventsOf_assignedActs (assigned : Option Scope) :
    eventsOf (assignedActs assigned) = (assigned.map Event.variablesAssigned).toList := by
  cases assigned <;> rfl

theorem eventsOf_failures (failures : List AssignmentFailure) :
    eventsOf (failures.map fun failure => .tell (failureEvent failure)) =
      failures.map failureEvent := by
  induction failures with
  | nil => rfl
  | cons failure rest inductionHypothesis =>
      rw [List.map_cons, eventsOf_tell, inductionHypothesis, List.map_cons]

theorem events_answered (request : HttpRequest) (operationId : Option String)
    (response : HttpResponse) (assigned : Option Scope) (failures : List AssignmentFailure) :
    eventsOf (answered request operationId response assigned failures).acts =
      .requestPrepared request operationId :: .responseReceived response ::
        ((assigned.map Event.variablesAssigned).toList ++ failures.map failureEvent) := by
  rw [acts, eventsOf_append, eventsOf_append, eventsOf_assignedActs, eventsOf_failures]
  rfl

end Attempt

mutual

/-- The stages of a playbook that were run. -/
inductive PlaybookTrace where
  | mk (name : String) (stages : List StageTrace)

/-- A stage that was run: without a content, or with the acquisitions for its entries,
its request with the tokens replaced, and what came of it. -/
inductive StageTrace where
  | unresolved (stage : Stage) (error : ResolveError)
  | resolved (stage : Stage) (auth : List AuthTrace) (request : StageRequest)
      (attempt : Attempt)

/-- What was done for an entry: nothing, if its credential or method is unknown; else
the scope of the credential was pushed, after the stages of the method if it has any. -/
inductive AuthTrace where
  | unmet (entry : String)
  | direct (entry : String) (scope : Scope)
  | staged (entry : String) (playbook : PlaybookTrace) (scope : Scope)

end

def StageTrace.status : StageTrace → StageStatus
  | .unresolved .. => .failed
  | .resolved _ _ _ attempt => attempt.status

def StageTrace.auth : StageTrace → List AuthTrace
  | .unresolved .. => []
  | .resolved _ auth _ _ => auth

/-- Stages are completed when each of them is. -/
def statusOfStages (stages : List StageTrace) : StageStatus :=
  stages.foldr (fun stage later => stage.status.both later) .completed

namespace PlaybookTrace

def name : PlaybookTrace → String
  | .mk name _ => name

def stages : PlaybookTrace → List StageTrace
  | .mk _ stages => stages

def status (playbook : PlaybookTrace) : StageStatus := statusOfStages playbook.stages

end PlaybookTrace

/-- How the end of a playbook is told. -/
def closing (name : String) : StageStatus → Event
  | .completed => .playbookFinished name
  | .failed => .playbookAborted name

mutual

def PlaybookTrace.acts : PlaybookTrace → List Act
  | .mk name stages =>
      .tell (.playbookStarted name) ::
        (stagesActs stages ++ [.tell (closing name (statusOfStages stages))])

def stagesActs : List StageTrace → List Act
  | [] => []
  | stage :: rest => stage.acts ++ stagesActs rest

def StageTrace.acts : StageTrace → List Act
  | .unresolved stage error =>
      [.tell (.requestStarted stage.target?), .tell (.prepareFailed (.unresolved error))]
  | .resolved stage auth request attempt =>
      authActs auth ++
        (.tell (.requestStarted stage.target?) :: .substitute stage request :: attempt.acts)

def authActs : List AuthTrace → List Act
  | [] => []
  | first :: rest => first.acts ++ authActs rest

def AuthTrace.acts : AuthTrace → List Act
  | .unmet entry => [.tell (.authStarted entry), .tell (.authFinished entry)]
  | .direct entry scope =>
      [.tell (.authStarted entry), .push scope, .tell (.authFinished entry)]
  | .staged entry playbook scope =>
      .tell (.authStarted entry) ::
        (playbook.acts ++ [.push scope, .tell (.authFinished entry)])

end

def PlaybookTrace.events (playbook : PlaybookTrace) : List Event := eventsOf playbook.acts

def PlaybookTrace.requests (playbook : PlaybookTrace) : List HttpRequest :=
  playbook.acts.filterMap Act.request?

theorem eventsOf_flatMap (traces : List PlaybookTrace) :
    eventsOf (traces.flatMap PlaybookTrace.acts) = traces.flatMap PlaybookTrace.events :=
  List.filterMap_flatMap

/-! ## Runs and their traces -/

/-- What comes of a request, after some requests were sent and the entries were met. -/
def attempt (setting : Setting) (sent : List HttpRequest) (stage : Stage)
    (resolved : ResolvedStage) (authorization : Authorization) (template : RequestTemplate) :
    Attempt :=
  match authorization.error with
  | some error => .unprepared (.credential error)
  | none =>
      match prepareRequest template authorization.credentials with
      | .error error => .unprepared (.preparation error)
      | .ok ready =>
          match setting.transport sent ready with
          | .failure error => .unanswered ready resolved.operationId error
          | .response response =>
              let assigned := Assigned.ofRules ⟨template, ready, response⟩
                (rulesFor resolved.content response.status)
              .answered ready resolved.operationId response (assigned.scope? stage.label)
                (assigned.errors.map fun (name, error) => ⟨name, error.message⟩)

mutual

/-- The trace of a playbook that is run in a session. -/
inductive PlaybookRuns (setting : Setting) :
    Session → String → List Stage → PlaybookTrace → Prop where
  | mk {session : Session} {name : String} {stages : List Stage} {traces : List StageTrace}
      (runs : StagesRun setting (session.tell (.playbookStarted name)) stages traces) :
      PlaybookRuns setting session name stages (.mk name traces)

/-- The traces of the stages that are run: all of them, or those up to the first one that
failed. -/
inductive StagesRun (setting : Setting) :
    Session → List Stage → List StageTrace → Prop where
  | done {session : Session} : StagesRun setting session [] []
  | stopped {session : Session} {stage : Stage} {rest : List Stage} {trace : StageTrace}
      (first : StageRuns setting session stage trace) (failed : trace.status = .failed)
      (stops : setting.policy ≠ .continueStages) :
      StagesRun setting session (stage :: rest) [trace]
  | next {session : Session} {stage : Stage} {rest : List Stage} {trace : StageTrace}
      {traces : List StageTrace} (first : StageRuns setting session stage trace)
      (goesOn : trace.status = .completed ∨ setting.policy = .continueStages)
      (later : StagesRun setting (session.perform trace.acts) rest traces) :
      StagesRun setting session (stage :: rest) (trace :: traces)

inductive StageRuns (setting : Setting) : Session → Stage → StageTrace → Prop where
  | unresolved {session : Session} {stage : Stage} {error : ResolveError}
      (failure : setting.bundle.resolve stage = .error error) :
      StageRuns setting session stage (.unresolved stage error)
  | resolved {session authorized : Session} {stage : Stage} {resolved : ResolvedStage}
      {auth : List AuthTrace} {authorization : Authorization} {request : StageRequest}
      (found : setting.bundle.resolve stage = .ok resolved)
      (entries : EntriesRun setting session resolved.content.auth auth authorization)
      (after : authorized = session.perform (authActs auth))
      (substituted : request = substituteStage authorized.stack stage resolved.content) :
      StageRuns setting session stage
        (.resolved stage auth request
          (attempt setting authorized.sent stage resolved authorization request.template))

inductive EntriesRun (setting : Setting) :
    Session → List String → List AuthTrace → Authorization → Prop where
  | done {session : Session} : EntriesRun setting session [] [] ⟨[], none⟩
  | next {session : Session} {entry : String} {rest : List String} {trace : AuthTrace}
      {traces : List AuthTrace} {result : Except AuthError AcquiredCredential}
      {authorization : Authorization}
      (first : EntryRuns setting session entry trace result)
      (later : EntriesRun setting (session.perform trace.acts) rest traces authorization) :
      EntriesRun setting session (entry :: rest) (trace :: traces) (authorization.cons result)

inductive EntryRuns (setting : Setting) :
    Session → String → AuthTrace → Except AuthError AcquiredCredential → Prop where
  | unmet {session : Session} {entry : String} {error : AuthError}
      (failure : setting.bundle.requirement entry = .error error) :
      EntryRuns setting session entry (.unmet entry) (.error error)
  | direct {session : Session} {entry : String} {requirement : Requirement}
      {acquired : AcquiredCredential}
      (met : setting.bundle.requirement entry = .ok requirement)
      (bare : requirement.method.requests = [])
      (filled : acquired = fillCredential session.stack requirement) :
      EntryRuns setting session entry (.direct entry (authScope acquired)) (.ok acquired)
  | staged {session : Session} {entry : String} {requirement : Requirement}
      {acquired : AcquiredCredential} {playbook : PlaybookTrace}
      (met : setting.bundle.requirement entry = .ok requirement)
      (staged : requirement.method.requests ≠ [])
      (runs : PlaybookRuns setting (session.tell (.authStarted entry)) requirement.name
        requirement.method.requests playbook)
      (filled : acquired = fillCredential
        ((session.tell (.authStarted entry)).perform playbook.acts).stack requirement) :
      EntryRuns setting session entry (.staged entry playbook (authScope acquired))
        (.ok acquired)

end

/-- How a playbook ended whose stages were run. -/
def ending : StageStatus → PlaybookStatus
  | .completed => .finished
  | .failed => .aborted

/-- The traces of the playbooks that are run, and how each playbook ended: all are run,
or those up to the first one that aborts. -/
inductive PlaybooksRun (setting : Setting) :
    Session → List Playbook → List PlaybookTrace → List PlaybookOutcome → Prop where
  | done {session : Session} : PlaybooksRun setting session [] [] []
  | stopped {session : Session} {playbook : Playbook} {rest : List Playbook}
      {trace : PlaybookTrace}
      (first : PlaybookRuns setting session playbook.name playbook.stages trace)
      (failed : trace.status = .failed) (stops : setting.policy = .abortRun) :
      PlaybooksRun setting session (playbook :: rest) [trace]
        (⟨playbook.name, .aborted⟩ :: rest.map skipped)
  | next {session : Session} {playbook : Playbook} {rest : List Playbook}
      {trace : PlaybookTrace} {traces : List PlaybookTrace} {outcomes : List PlaybookOutcome}
      (first : PlaybookRuns setting session playbook.name playbook.stages trace)
      (goesOn : trace.status = .completed ∨ setting.policy ≠ .abortRun)
      (later : PlaybooksRun setting (session.perform trace.acts) rest traces outcomes) :
      PlaybooksRun setting session (playbook :: rest) (trace :: traces)
        (⟨playbook.name, ending trace.status⟩ :: outcomes)

end RequestFlow.Execution
