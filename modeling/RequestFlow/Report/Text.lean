import RequestFlow.Report.Basic

/-!
Contract: reports as text.

Owns: the lines of a report. Requests stand under their playbook, and
acquisitions with their own playbooks under the request that needed them, two
blanks deeper each time.
-/

namespace RequestFlow.ReportText

/-- A line at a depth. -/
def line (depth : Nat) (text : String) : String :=
  String.ofList (List.replicate (2 * depth) ' ') ++ text

def label (facts : RequestFacts) : String :=
  match facts.target, facts.operationId with
  | some target, _ => target.label
  | none, some id => "external:" ++ id
  | none, none => "external"

def outcome (facts : RequestFacts) : String :=
  match facts.response, facts.error, facts.prepareError with
  | some response, _, _ => Text.natText response.status
  | none, some error, _ => "error: " ++ error.message
  | none, none, some error => "not sent: " ++ error
  | none, none, none => "not sent"

def requestLine (facts : RequestFacts) : String :=
  let sent :=
    match facts.request with
    | some request => " " ++ request.method ++ " " ++ request.url
    | none => ""
  label facts ++ sent ++ " -> " ++ outcome facts

/-- A line with a list of names, unless there are none. -/
def namesLine (depth : Nat) (title : String) (names : List String) : List String :=
  if names.isEmpty then [] else [line depth (title ++ ": " ++ String.intercalate ", " names)]

/-- The lines behind the acquisitions of a request. -/
def factLines (depth : Nat) (facts : RequestFacts) : List String :=
  namesLine depth "missing" facts.missing ++
    namesLine depth "assigned" (facts.assigned.flatMap fun scope => scope.values.keys) ++
    facts.assignmentFailures.map fun failure =>
      line depth ("assignment " ++ failure.name ++ " failed: " ++ failure.error)

mutual

def run (depth : Nat) : RunReport → List String
  | .mk playbooks _ => playbooksLines depth playbooks

/-- The lines of playbooks, of which the newest comes first. -/
def playbooksLines (depth : Nat) : List PlaybookReport → List String
  | [] => []
  | .mk name status requests _ :: earlier =>
      playbooksLines depth earlier ++
        line depth (name ++ ": " ++ status.word) :: requestsLines (depth + 1) requests

def requestsLines (depth : Nat) : List RequestReport → List String
  | [] => []
  | .mk facts auth :: earlier =>
      requestsLines depth earlier ++
        line depth (requestLine facts) ::
          (authLines (depth + 1) auth ++ factLines (depth + 1) facts)

def authLines (depth : Nat) : List AuthReport → List String
  | [] => []
  | .mk name finished report :: earlier =>
      authLines depth earlier ++
        line depth ("auth " ++ name ++ if finished then "" else " (incomplete)") ::
          run (depth + 1) report

end

/-- The text of a report, each line with its end. -/
def text (report : RunReport) : String :=
  String.join ((run 0 report).map fun line => line ++ "\n")

end RequestFlow.ReportText
