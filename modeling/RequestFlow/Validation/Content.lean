import RequestFlow.Bundle.Encoding
import RequestFlow.Bundle.Lookup
import RequestFlow.Json.Pointer
import RequestFlow.Validation.Basic

/-!
Contract: checks on the content of a stage.

Owns: the checks of the method and the URL, of the `auth` entries, of the
response keys, and of the assignment rules.
-/

namespace RequestFlow.Validation

/-- A rule needs a valid name, and a path where its part calls for one. The path
of a body is a path query when it starts with `$`, else a pointer. -/
def assignmentRule (location : String) (rule : AssignmentRule) : List Violation :=
  variableName (location ++ ".name") rule.name ++
    match rule.part, rule.path with
    | .statusCode, _ => []
    | .body, none => []
    | .body, some path =>
        if path.toList.head? == some '$' then []
        else
          match Pointer.parse path with
          | .ok _ => []
          | .error error => [⟨location ++ ".path", "invalid json pointer: " ++ error.message⟩]
    | part, none =>
        [⟨location ++ ".path", "required for '" ++ part.word ++ "' assignments"⟩]
    | _, some _ => []

/-- A three-digit code from 1 to 5, its class written with two letters `x`, or
the word `default`. -/
def isStatusKey (key : String) : Bool :=
  key == "default" ||
    match key.toList with
    | [first, second, third] =>
        '1' ≤ first && first ≤ '5' &&
          ((Text.isDigit second && Text.isDigit third) ||
            (Text.asciiLower second == 'x' && Text.asciiLower third == 'x'))
    | _ => false

def responseRules (location : String) (status : String) (rules : ResponseRules) :
    List Violation :=
  let location := location ++ ".responses." ++ status
  require (isStatusKey status) location
      "response key must be a status code, a class like 2XX, or 'default'" ++
    eachItem (location ++ ".variableAssignments") rules.assignments assignmentRule

/-- An entry names a declared credential and, if a method is named, one of its methods. -/
def authEntry (bundle : Bundle) (location entry : String) : List Violation :=
  let found := AuthRef.parse entry
  match bundle.credential? found.name, found.method with
  | none, _ => [⟨location, "unknown credential '" ++ found.name ++ "'"⟩]
  | some _, none => []
  | some credential, some method =>
      require (credential.methods.contains method) location
        ("credential '" ++ found.name ++ "' has no method '" ++ method ++ "'")

def defaultResponse (location : String) (content : StageContent) : List Violation :=
  match content.defaultResponse with
  | none => []
  | some key =>
      require (content.responses.contains key) (location ++ ".defaultResponse")
        ("no response declared for '" ++ key ++ "'")

def stageContent (bundle : Bundle) (location : String) (content : StageContent) :
    List Violation :=
  require (isMethod content.request.method) (location ++ ".request.method")
      ("invalid HTTP method '" ++ content.request.method ++ "'") ++
    require (!Text.isAllBlank content.request.url) (location ++ ".request.url")
      "must not be empty" ++
    eachItem (location ++ ".auth") content.auth (authEntry bundle) ++
    defaultResponse location content ++
    content.responses.entries.flatMap fun (status, rules) => responseRules location status rules

/-- Why a target that does not exist does not exist. -/
def missingTarget (bundle : Bundle) (target : Target) : String :=
  match target with
  | .operation id => "references unknown operation '" ++ id ++ "'"
  | .request id => "references unknown request '" ++ id ++ "'"
  | .credential id _ _ =>
      if (bundle.credential? id).isNone then "references unknown credential '" ++ id ++ "'"
      else "credential stage " ++ target.label ++ " is out of range"

def stage (bundle : Bundle) (location : String) (stage : Stage) : List Violation :=
  match stage with
  | .reference target _ =>
      require (bundle.hasTarget target) (location ++ ".ref") (missingTarget bundle target)
  | .inline content _ => stageContent bundle location content

def stageList (bundle : Bundle) (list : Bundle.StageList) : List Violation :=
  eachItem list.location list.stages (stage bundle)

end RequestFlow.Validation
