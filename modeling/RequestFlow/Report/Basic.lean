import RequestFlow.Run.Event

/-!
Contract: the report of a run, folded from its events.

Owns: reports of runs, playbooks, requests and acquisitions, and the step by
which an event changes a report.

While an acquisition is open every event goes into its own report, down to the
innermost open one, until that one is finished by its name. Playbooks, requests
and acquisitions are listed with the newest first, so the ones that may still
change are at the front. An acquisition waits with its playbook until the request
it is for starts.

Any list of events has a report; events that fit nowhere change nothing.
-/

namespace RequestFlow

inductive ReportStatus where
  | running
  | finished
  | aborted
deriving DecidableEq, Repr

def ReportStatus.word : ReportStatus → String
  | .running => "running"
  | .finished => "finished"
  | .aborted => "aborted"

structure AssignmentFailure where
  name : String
  error : String
deriving DecidableEq, Repr

/-- What the events of a request itself tell. -/
structure RequestFacts where
  target : Option Target
  found : List String
  missing : List String
  operationId : Option String
  request : Option HttpRequest
  prepareError : Option String
  response : Option HttpResponse
  error : Option TransportError
  assigned : List Scope
  assignmentFailures : List AssignmentFailure
deriving DecidableEq, Repr

namespace RequestFacts

/-- What is known when a request starts. -/
def started (target : Option Target) : RequestFacts :=
  ⟨target, [], [], none, none, none, none, none, [], []⟩

/-- A request failed when it got no response. -/
def failed (facts : RequestFacts) : Bool :=
  facts.prepareError.isSome || facts.error.isSome

/-- Adds what an event tells of a request. -/
def record (facts : RequestFacts) : Event → RequestFacts
  | .variablesSubstituted _ found missing => { facts with found := found, missing := missing }
  | .requestPrepared request operationId =>
      { facts with request := some request, operationId := operationId }
  | .prepareFailed error => { facts with prepareError := some error.message }
  | .responseReceived response => { facts with response := some response }
  | .transportFailed error => { facts with error := some error }
  | .variablesAssigned scope => { facts with assigned := facts.assigned ++ [scope] }
  | .assignmentFailed name error =>
      { facts with assignmentFailures := facts.assignmentFailures ++ [⟨name, error⟩] }
  | .playbookStarted _ | .requestStarted _ | .authStarted _ | .authFinished _
  | .playbookFinished _ | .playbookAborted _ => facts

end RequestFacts

mutual

/-- The playbooks of a run, and the name of the acquisition that is open, if one is. -/
inductive RunReport where
  | mk (playbooks : List PlaybookReport) (openAuth : Option String)

/-- A playbook with its requests, and the acquisitions for the next request. -/
inductive PlaybookReport where
  | mk (name : String) (status : ReportStatus) (requests : List RequestReport)
      (pending : List AuthReport)

inductive RequestReport where
  | mk (facts : RequestFacts) (auth : List AuthReport)

/-- What happened while a credential was acquired. -/
inductive AuthReport where
  | mk (name : String) (finished : Bool) (run : RunReport)

end

namespace PlaybookReport

def name : PlaybookReport → String
  | .mk name _ _ _ => name

def status : PlaybookReport → ReportStatus
  | .mk _ status _ _ => status

def requests : PlaybookReport → List RequestReport
  | .mk _ _ requests _ => requests

def pending : PlaybookReport → List AuthReport
  | .mk _ _ _ pending => pending

end PlaybookReport

namespace RequestReport

def facts : RequestReport → RequestFacts
  | .mk facts _ => facts

def auth : RequestReport → List AuthReport
  | .mk _ auth => auth

end RequestReport

namespace RunReport

def playbooks : RunReport → List PlaybookReport
  | .mk playbooks _ => playbooks

def openAuth : RunReport → Option String
  | .mk _ openAuth => openAuth

def empty : RunReport := .mk [] none

/-! ## Events outside of acquisitions -/

/-- Starts a request, which takes the acquisitions that wait. -/
def startRequest (target : Option Target) : List PlaybookReport → List PlaybookReport
  | [] => []
  | .mk name status requests pending :: earlier =>
      .mk name status (.mk (.started target) pending :: requests) [] :: earlier

/-- Adds what an event tells to the newest request of the newest playbook. -/
def recordFacts (event : Event) : List PlaybookReport → List PlaybookReport
  | .mk name status (.mk facts auth :: requests) pending :: earlier =>
      .mk name status (.mk (facts.record event) auth :: requests) pending :: earlier
  | playbooks => playbooks

def close (status : ReportStatus) : List PlaybookReport → List PlaybookReport
  | [] => []
  | .mk name _ requests pending :: earlier => .mk name status requests pending :: earlier

/-- Opens an acquisition in the newest playbook, if there is one. -/
def startAuth (auth : String) : List PlaybookReport → RunReport
  | [] => .mk [] none
  | .mk name status requests pending :: earlier =>
      .mk (.mk name status requests (.mk auth false empty :: pending) :: earlier) (some auth)

/-- The step of a report in which no acquisition is open. -/
def applyHere (playbooks : List PlaybookReport) : Event → RunReport
  | .playbookStarted name => .mk (.mk name .running [] [] :: playbooks) none
  | .authStarted name => startAuth name playbooks
  | .authFinished _ => .mk playbooks none
  | .requestStarted target => .mk (startRequest target playbooks) none
  | .playbookFinished _ => .mk (close .finished playbooks) none
  | .playbookAborted _ => .mk (close .aborted playbooks) none
  | event => .mk (recordFacts event playbooks) none

/-! ## The step -/

/-- Whether an event ends an acquisition with a report. -/
def closes (auth : String) (report : RunReport) : Event → Bool
  | .authFinished name => report.openAuth.isNone && name == auth
  | _ => false

/-- Changes a report by an event. -/
def apply : RunReport → Event → RunReport
  | .mk (.mk name status requests (.mk auth finished run :: pending) :: earlier) (some current),
      event =>
      if closes current run event then
        .mk (.mk name status requests (.mk auth true run :: pending) :: earlier) none
      else
        .mk (.mk name status requests (.mk auth finished (apply run event) :: pending) :: earlier)
          (some current)
  | .mk playbooks _, event => applyHere playbooks event

/-- The report of a list of events. -/
def ofEvents (events : List Event) : RunReport :=
  events.foldl apply empty

def succeeded (report : RunReport) : Bool :=
  report.playbooks.all fun playbook => playbook.status == .finished

end RunReport

end RequestFlow
