import RequestFlow.Bundle.Lookup

/-!
Contract: the content that a stage runs with.

Owns: the resolution of targets and stages, its errors, and the labels of stages.

A target of the credential kind leads to a stage of a credential's acquisition,
which may in turn lead to an operation or a request, but not to another
credential. So a resolution takes at most two steps.
-/

namespace RequestFlow

/-- Why a stage has no content, or an operation no scenario. -/
inductive ResolveError where
  | operation (id : String)
  | request (id : String)
  | credential (id : String)
  | method (id name : String)
  | position (id name : String) (place : Nat)
  | nestedCredential (label : String)
  | scenario (id key : String)
deriving DecidableEq, Repr

def ResolveError.message : ResolveError → String
  | .operation id => "stage not found: operation '" ++ id ++ "'"
  | .request id => "stage not found: request '" ++ id ++ "'"
  | .credential id => "stage not found: credential '" ++ id ++ "'"
  | .method id name =>
      "stage not found: credential '" ++ id ++ "' has no method '" ++ name ++ "'"
  | .position id name place =>
      "stage not found: credential '" ++ id ++ "' method '" ++ name ++
        "' has no stage at position " ++ Text.natText place
  | .nestedCredential label =>
      "stage not found: " ++ label ++ " points at another credential stage"
  | .scenario id key =>
      "scenario not found: operation '" ++ id ++ "' has no scenario '" ++ key ++ "'"

/-- The content of a stage, and the operation it counts for. -/
structure ResolvedStage where
  content : StageContent
  operationId : Option String
deriving DecidableEq, Repr

namespace ResolvedStage

/-- A content that counts for the operation it names itself. -/
def ofContent (content : StageContent) : ResolvedStage :=
  ⟨content, content.operationId⟩

/-- The request of an operation counts for the operation, unless it names another one. -/
def ofOperation (operation : Operation) : ResolvedStage :=
  ⟨operation.request, some (operation.request.operationId.getD operation.operationId)⟩

end ResolvedStage

namespace Bundle

def resolveOperation (bundle : Bundle) (id : String) : Except ResolveError ResolvedStage :=
  match bundle.operations.get? id with
  | some operation => .ok (.ofOperation operation)
  | none => .error (.operation id)

def resolveRequest (bundle : Bundle) (id : String) : Except ResolveError ResolvedStage :=
  match bundle.requests.get? id with
  | some content => .ok (.ofContent content)
  | none => .error (.request id)

/-- The acquisition stage at a position of a credential's method. -/
def acquisitionStage (bundle : Bundle) (id : String) (method : Option String)
    (position : Nat) : Except ResolveError Stage :=
  match bundle.credential? id with
  | none => .error (.credential id)
  | some credential =>
      match credential.method? method with
      | none => .error (.method id (method.getD credential.defaultMethod))
      | some (name, found) =>
          match found.requests[position]? with
          | some stage => .ok stage
          | none => .error (.position id name position)

def resolveTarget (bundle : Bundle) (target : Target) : Except ResolveError ResolvedStage :=
  match target with
  | .operation id => bundle.resolveOperation id
  | .request id => bundle.resolveRequest id
  | .credential id method position => do
      match ← bundle.acquisitionStage id method position with
      | .inline content _ => .ok (.ofContent content)
      | .reference (.operation id) _ => bundle.resolveOperation id
      | .reference (.request id) _ => bundle.resolveRequest id
      | .reference (.credential ..) _ => .error (.nestedCredential target.label)

def resolve (bundle : Bundle) : Stage → Except ResolveError ResolvedStage
  | .inline content _ => .ok (.ofContent content)
  | .reference target _ => bundle.resolveTarget target

end Bundle

/-- How a stage is named in reports: by its target, else by its operation. -/
def Stage.label : Stage → String
  | .reference target _ => target.label
  | .inline content _ =>
      match content.operationId with
      | some id => "external:" ++ id
      | none => "external"

/-- The target of a stage that has one. -/
def Stage.target? : Stage → Option Target
  | .reference target _ => some target
  | .inline .. => none

end RequestFlow
