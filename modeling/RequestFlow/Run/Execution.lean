import RequestFlow.Assignment.Evaluation
import RequestFlow.Run.Event
import RequestFlow.Run.Playbook
import RequestFlow.Run.Policy
import RequestFlow.Variable.Substitution

/-!
Contract: the execution of playbooks.

Owns: the steps of a stage, the acquisition of credentials, the effect of the
failure policy, and the outcome of a run.

A run works on a session: the stack of variables, the requests sent, and the
events told. A stage whose content asks for credentials acquires them first, one
after another, and each acquisition runs the stages of its method as a playbook of
its own, which may ask for further credentials. An acquisition works on a copy of
the stack and hands over the scopes that it pushed there; the stage that asked for
it pushes them on its own stack. Nothing is kept for a second use.

How deep acquisitions may lie in one another is a parameter. A run that would go
deeper has no result.
-/

namespace RequestFlow

inductive PlaybookStatus where
  | finished
  | aborted
  | skipped
deriving DecidableEq, Repr

def PlaybookStatus.word : PlaybookStatus → String
  | .finished => "finished"
  | .aborted => "aborted"
  | .skipped => "skipped"

structure PlaybookOutcome where
  name : String
  status : PlaybookStatus
deriving DecidableEq, Repr

/-- The stack as the last stage left it, and how each playbook ended. -/
structure RunOutcome where
  stack : ScopeStack
  playbooks : List PlaybookOutcome
deriving DecidableEq, Repr

def PlaybookOutcome.toJson (outcome : PlaybookOutcome) : Json :=
  Json.ofFields [("name", .string outcome.name), ("status", .string outcome.status.word)]

namespace RunOutcome

def succeeded (outcome : RunOutcome) : Bool :=
  outcome.playbooks.all fun playbook => playbook.status == .finished

def toJson (outcome : RunOutcome) : Json :=
  Json.ofFields [("stack", outcome.stack.toJson),
    ("playbooks", Json.ofList PlaybookOutcome.toJson outcome.playbooks)]

end RunOutcome

namespace Execution

/-- What stays the same during a run. -/
structure Setting where
  bundle : Bundle
  transport : Transport
  policy : FailurePolicy

/-- What a run changes: the variables, the requests sent and the events told,
each list with the oldest item first. -/
structure Session where
  stack : ScopeStack
  sent : List HttpRequest
  events : List Event
deriving DecidableEq, Repr

inductive StageStatus where
  | completed
  | failed
deriving DecidableEq, Repr

namespace Session

def start (seed : ScopeStack) : Session := ⟨seed, [], []⟩

def tell (session : Session) (event : Event) : Session :=
  { session with events := session.events ++ [event] }

def tellAll (session : Session) (events : List Event) : Session :=
  { session with events := session.events ++ events }

def push (session : Session) (scope : Scope) : Session :=
  { session with stack := session.stack.push scope }

def extend (session : Session) (scopes : List Scope) : Session :=
  { session with stack := session.stack.extend scopes }

/-- The session after some work on a copy of its stack. -/
def resume (session worked : Session) : Session :=
  { worked with stack := session.stack }

def recordSent (session : Session) (request : HttpRequest) : Session :=
  { session with sent := session.sent ++ [request] }

end Session

/-! ## Sending -/

/-- The scope that a stage's own variables are in. -/
def stageScopeId : String := "stage"

/-- A stage's request with its tokens replaced, the stack it was made with, and
the tokens met. -/
structure StageRequest where
  stack : ScopeStack
  template : RequestTemplate
  seen : SeenTokens
deriving DecidableEq, Repr

/-- Replaces the tokens of a request. The stage's own variables are replaced
first and hold for this request alone. -/
def substituteStage (stack : ScopeStack) (stage : Stage) (content : StageContent) :
    StageRequest :=
  let environment := Substitution.values stack .none stage.environment
  let stageStack :=
    if stage.environment.isEmpty then stack
    else stack.push (.plain stageScopeId environment.value)
  let request := Substitution.request stageStack .none content.request
  ⟨stageStack, request.value, environment.seen.append request.seen⟩

/-- Prepares a request and places the credentials on it, in their order. -/
def prepareRequest (template : RequestTemplate) (credentials : List AcquiredCredential) :
    Except PrepareError HttpRequest := do
  let request ← PreparedRequest.prepare template
  let placed ← credentials.foldlM PreparedRequest.applyCredential request
  .ok placed.toHttp

/-- The rules for the responses with a status. -/
def rulesFor (content : StageContent) (status : Nat) : List AssignmentRule :=
  match content.responseFor status with
  | some found => found.assignments
  | none => []

/-- Applies the rules for a response. Rules that fail do not fail the stage. -/
def assign (label : String) (content : StageContent) (exchange : Exchange)
    (session : Session) : Session :=
  let assigned := Assigned.ofRules exchange (rulesFor content exchange.response.status)
  let session :=
    match assigned.scope? label with
    | some scope => (session.push scope).tell (.variablesAssigned scope)
    | none => session
  session.tellAll (assigned.errors.map fun (name, error) =>
    .assignmentFailed name error.message)

/-- Sends a request that is ready, and uses the response. -/
def exchange (setting : Setting) (label : String) (content : StageContent)
    (template : RequestTemplate) (request : HttpRequest) (session : Session) :
    StageStatus × Session :=
  let reply := setting.transport session.sent request
  let session := session.recordSent request
  match reply with
  | .failure error => (.failed, session.tell (.transportFailed error))
  | .response response =>
      (.completed,
        assign label content ⟨template, request, response⟩
          (session.tell (.responseReceived response)))

/-! ## Stages -/

/-- A credential with its value, and the scopes that its acquisition pushed on its
copy of the stack, the oldest first. -/
structure Acquisition where
  credential : AcquiredCredential
  scopes : List Scope
deriving DecidableEq, Repr

/-- A way to acquire the credential of an `auth` entry, which leaves the stack as it
is; no result when it would take too many acquisitions in one another. -/
abbrev Acquirer := String → Session → Option (Except AuthError Acquisition × Session)

/-- Pushes what an acquisition hands over. One that failed hands over nothing. -/
def Session.adopt (session : Session) : Except AuthError Acquisition → Session
  | .ok acquisition => session.extend acquisition.scopes
  | .error _ => session

/-- The credentials acquired for a stage, and the first error among its entries. -/
structure Authorization where
  credentials : List AcquiredCredential
  error : Option AuthError
deriving DecidableEq, Repr

/-- An authorization with one more entry in front. -/
def Authorization.cons (first : Except AuthError AcquiredCredential)
    (rest : Authorization) : Authorization :=
  match first with
  | .ok acquired => ⟨acquired :: rest.credentials, rest.error⟩
  | .error error => ⟨rest.credentials, some error⟩

/-- Acquires the credentials of some entries. A failure does not stop the others. -/
def authorize (acquire : Acquirer) : List String → Session → Option (Authorization × Session)
  | [], session => some (⟨[], none⟩, session)
  | auth :: rest, session => do
      let (first, session) ← acquire auth (session.tell (.authStarted auth))
      let (more, session) ← authorize acquire rest
        ((session.adopt first).tell (.authFinished auth))
      some (more.cons (first.map Acquisition.credential), session)

/-- Runs a stage whose content and credentials are at hand. -/
def runAuthorized (setting : Setting) (stage : Stage) (resolved : ResolvedStage)
    (authorization : Authorization) (session : Session) : StageStatus × Session :=
  let request := substituteStage session.stack stage resolved.content
  let session := (session.tell (.requestStarted stage.target?)).tell
    (.variablesSubstituted request.stack request.seen.found request.seen.missing)
  match authorization.error with
  | some error => (.failed, session.tell (.prepareFailed (.credential error)))
  | none =>
      match prepareRequest request.template authorization.credentials with
      | .error error => (.failed, session.tell (.prepareFailed (.preparation error)))
      | .ok ready =>
          exchange setting stage.label resolved.content request.template ready
            (session.tell (.requestPrepared ready resolved.operationId))

def runStage (setting : Setting) (acquire : Acquirer) (stage : Stage) (session : Session) :
    Option (StageStatus × Session) :=
  match setting.bundle.resolve stage with
  | .error error =>
      some (.failed, (session.tell (.requestStarted stage.target?)).tell
        (.prepareFailed (.unresolved error)))
  | .ok resolved => do
      let (authorization, session) ← authorize acquire resolved.content.auth session
      some (runAuthorized setting stage resolved authorization session)

/-- The status of stages of which one failed or not. -/
def StageStatus.both : StageStatus → StageStatus → StageStatus
  | .completed, .completed => .completed
  | _, _ => .failed

/-- Runs stages in order. After one that failed only the policy of going on goes on. -/
def runStages (setting : Setting) (acquire : Acquirer) :
    List Stage → Session → Option (StageStatus × Session)
  | [], session => some (.completed, session)
  | stage :: rest, session => do
      let (status, session) ← runStage setting acquire stage session
      if status == .failed && setting.policy != .continueStages then some (.failed, session)
      else
        let (later, session) ← runStages setting acquire rest session
        some (status.both later, session)

/-- Runs stages under a name. -/
def runPlaybook (setting : Setting) (acquire : Acquirer) (name : String)
    (stages : List Stage) (session : Session) : Option (StageStatus × Session) := do
  let (status, session) ←
    runStages setting acquire stages (session.tell (.playbookStarted name))
  match status with
  | .completed => some (.completed, session.tell (.playbookFinished name))
  | .failed => some (.failed, session.tell (.playbookAborted name))

/-! ## Credentials -/

/-- The credential of a requirement. Its value is the template of the method with the
tokens replaced. -/
def fillCredential (stack : ScopeStack) (requirement : Requirement) : AcquiredCredential :=
  ⟨requirement.name, requirement.credential,
    (Substitution.text stack .none requirement.method.credential).value⟩

/-- The scope in which an acquired credential is a variable. -/
def authScope (acquired : AcquiredCredential) : Scope :=
  .plain ("auth:" ++ acquired.name) (Dict.ofList [(acquired.name, .string acquired.value)])

/-- Runs the stages of a method, if it has any. How they end does not matter. -/
def runMethod (setting : Setting) (inner : Acquirer) (requirement : Requirement)
    (session : Session) : Option Session :=
  if requirement.method.requests.isEmpty then some session
  else (runPlaybook setting inner requirement.name requirement.method.requests session).map
    Prod.snd

/-- Acquires a credential on a copy of the stack: after the stages of its method the
value is filled in and becomes a variable under the credential's name. What was pushed
on the copy is handed over. -/
def acquire (setting : Setting) (inner : Acquirer) : Acquirer := fun auth session =>
  match setting.bundle.requirement auth with
  | .error error => some (.error error, session)
  | .ok requirement => do
      let worked ← runMethod setting inner requirement session
      let credential := fillCredential worked.stack requirement
      let worked := worked.push (authScope credential)
      some (.ok ⟨credential, worked.stack.since session.stack.size⟩, session.resume worked)

/-- Acquires credentials that need at most so many acquisitions in one another. -/
def acquireWithin (setting : Setting) : (depth : Nat) → Acquirer
  | 0 => fun _ _ => none
  | depth + 1 => acquire setting (acquireWithin setting depth)

/-! ## Runs -/

def skipped (playbook : Playbook) : PlaybookOutcome := ⟨playbook.name, .skipped⟩

/-- Runs playbooks in order. One that aborts skips the rest only under the policy
of ending the run. -/
def runPlaybooks (setting : Setting) (depth : Nat) :
    List Playbook → Session → Option (List PlaybookOutcome × Session)
  | [], session => some ([], session)
  | playbook :: rest, session => do
      let (status, session) ←
        runPlaybook setting (acquireWithin setting depth) playbook.name playbook.stages session
      match status with
      | .completed => do
          let (outcomes, session) ← runPlaybooks setting depth rest session
          some (⟨playbook.name, .finished⟩ :: outcomes, session)
      | .failed =>
          if setting.policy == .abortRun then
            some (⟨playbook.name, .aborted⟩ :: rest.map skipped, session)
          else do
            let (outcomes, session) ← runPlaybooks setting depth rest session
            some (⟨playbook.name, .aborted⟩ :: outcomes, session)

end Execution

/-- A finished run: its outcome, its events, and the requests it sent. -/
structure Run where
  outcome : RunOutcome
  events : List Event
  sent : List HttpRequest
deriving DecidableEq, Repr

namespace Run

open Execution

/-- Runs playbooks on one stack, with so many acquisitions in one another at most. -/
def within (depth : Nat) (setting : Setting) (playbooks : List Playbook)
    (seed : ScopeStack) : Option Run := do
  let (outcomes, session) ← runPlaybooks setting depth playbooks (.start seed)
  some ⟨⟨session.stack, outcomes⟩, session.events, session.sent⟩

/-- A run that ends at some depth. -/
abbrev Ended (setting : Setting) (playbooks : List Playbook) (seed : ScopeStack) : Type :=
  {run : Run // ∃ depth, within depth setting playbooks seed = some run}

/-- Runs playbooks at one depth. If that is not enough, it is the turn of the next depth. -/
def deepen (setting : Setting) (playbooks : List Playbook) (seed : ScopeStack) (depth : Nat) :
    Id (Nat ⊕ Option (Ended setting playbooks seed)) :=
  match ended : within depth setting playbooks seed with
  | some run => .inr (some ⟨run, depth, ended⟩)
  | none => .inl (depth + 1)

/-- Runs playbooks at the first depth, from the given one on, at which they have a result. What a
loop without end comes to is left open, but it is no run, since a run has its depth with it. -/
def searchFrom (depth : Nat) (setting : Setting) (playbooks : List Playbook)
    (seed : ScopeStack) : Option Run :=
  (repeatM (deepen setting playbooks seed) depth).run.map Subtype.val

/-- Runs playbooks on one stack. There is no result exactly if the run never ends. A bundle
without cycles never goes deeper than it has credentials, so the search starts there. -/
def ofPlaybooks (setting : Setting) (playbooks : List Playbook) (seed : ScopeStack) :
    Option Run :=
  searchFrom (setting.bundle.credentialNames.length + 1) setting playbooks seed

end Run

end RequestFlow
