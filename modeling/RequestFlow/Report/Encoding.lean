import RequestFlow.Report.Basic

/-!
Contract: reports as JSON values.

Owns: `toJson` of a report. Everything stands in the order in which it happened.
Acquisitions that still wait for their request are not written.
-/

namespace RequestFlow

def AssignmentFailure.toJson (failure : AssignmentFailure) : Json :=
  Json.ofFields [("name", .string failure.name), ("error", .string failure.error)]

/-- The members of a request that its own events give. -/
def RequestFacts.members (facts : RequestFacts) : List (String × Json) :=
  optionalMember "ref" Target.toJson facts.target ++
    [("found", Json.ofStrings facts.found), ("missing", Json.ofStrings facts.missing)] ++
    optionalMember "operationId" Json.string facts.operationId ++
    optionalMember "request" HttpRequest.toJson facts.request ++
    optionalMember "prepareError" Json.string facts.prepareError ++
    optionalMember "response" HttpResponse.toJson facts.response ++
    optionalMember "error" TransportError.toJson facts.error ++
    listMember "assigned" Scope.toJson facts.assigned ++
    listMember "assignmentErrors" AssignmentFailure.toJson facts.assignmentFailures

mutual

def RunReport.toJson : RunReport → Json
  | .mk playbooks _ => Json.ofFields [("playbooks", .array (playbooksJson playbooks).reverse)]

def PlaybookReport.toJson : PlaybookReport → Json
  | .mk name status requests _ =>
      Json.ofFields [("name", .string name), ("status", .string status.word),
        ("requests", .array (requestsJson requests).reverse)]

def RequestReport.toJson : RequestReport → Json
  | .mk facts auth =>
      Json.ofFields (facts.members ++ listMember "auth" id (authJson auth).reverse)

def AuthReport.toJson : AuthReport → Json
  | .mk name finished run =>
      Json.ofFields [("name", .string name), ("finished", .bool finished),
        ("run", RunReport.toJson run)]

/-- The values of playbooks, the newest first. -/
def playbooksJson : List PlaybookReport → List Json
  | [] => []
  | playbook :: earlier => PlaybookReport.toJson playbook :: playbooksJson earlier

def requestsJson : List RequestReport → List Json
  | [] => []
  | request :: earlier => RequestReport.toJson request :: requestsJson earlier

def authJson : List AuthReport → List Json
  | [] => []
  | auth :: earlier => AuthReport.toJson auth :: authJson earlier

end

end RequestFlow
