import RequestFlow.Request.Prepared
import RequestFlow.Run.Requirement
import RequestFlow.Run.Resolution
import RequestFlow.Transport.Basic
import RequestFlow.Variable.Scope

/-!
Contract: the events of a run.

Owns: what is told of each step, the kinds of events, and their documents.

Events are told in the order in which things happen. What happens while a
credential is acquired stands between the start and the end of the acquisition.
-/

namespace RequestFlow

/-- Why a stage sent no request: it has no content, a credential is missing, or
the request could not be prepared. Of an error that was only heard of the text is
known. -/
inductive StageError where
  | unresolved (error : ResolveError)
  | credential (error : AuthError)
  | preparation (error : PrepareError)
  | heard (text : String)
deriving DecidableEq, Repr

def StageError.message : StageError → String
  | .unresolved error => error.message
  | .credential error => error.message
  | .preparation error => error.message
  | .heard text => text

inductive Event where
  | playbookStarted (name : String)
  | requestStarted (target : Option Target)
  | authStarted (name : String)
  | authFinished (name : String)
  | variablesSubstituted (stack : ScopeStack) (found missing : List String)
  | requestPrepared (request : HttpRequest) (operationId : Option String)
  | prepareFailed (error : StageError)
  | responseReceived (response : HttpResponse)
  | transportFailed (error : TransportError)
  | variablesAssigned (scope : Scope)
  | assignmentFailed (name error : String)
  | playbookFinished (name : String)
  | playbookAborted (name : String)
deriving DecidableEq, Repr

namespace Event

def kind : Event → String
  | .playbookStarted _ => "playbook-started"
  | .requestStarted _ => "request-started"
  | .authStarted _ => "auth-started"
  | .authFinished _ => "auth-finished"
  | .variablesSubstituted .. => "payload-variables-substituted"
  | .requestPrepared .. => "http-request-prepared"
  | .prepareFailed _ => "http-request-prepare-error"
  | .responseReceived _ => "http-response-received"
  | .transportFailed _ => "http-error-received"
  | .variablesAssigned _ => "variables-assigned"
  | .assignmentFailed .. => "variables-assignment-error"
  | .playbookFinished _ => "playbook-finished"
  | .playbookAborted _ => "playbook-aborted"

/-- What an event tells beside its kind. -/
def members : Event → List (String × Json)
  | .playbookStarted name => [("name", .string name)]
  | .requestStarted target => optionalMember "ref" Target.toJson target
  | .authStarted name => [("name", .string name)]
  | .authFinished name => [("name", .string name)]
  | .variablesSubstituted stack found missing =>
      [("stack", stack.toJson), ("found", Json.ofStrings found),
        ("missing", Json.ofStrings missing)]
  | .requestPrepared request operationId =>
      ("request", request.toJson) :: optionalMember "operationId" Json.string operationId
  | .prepareFailed error => [("error", .string error.message)]
  | .responseReceived response => [("response", response.toJson)]
  | .transportFailed error => [("error", error.toJson)]
  | .variablesAssigned scope => [("assignments", scope.toJson)]
  | .assignmentFailed name error => [("name", .string name), ("error", .string error)]
  | .playbookFinished name => [("name", .string name)]
  | .playbookAborted name => [("name", .string name)]

def toJson (event : Event) : Json :=
  Json.ofFields (("event", .string event.kind) :: event.members)

end Event

end RequestFlow
