import RequestFlow.Bundle.Basic
import RequestFlow.Document.Decode

/-!
Contract: bundles from documents.

Owns: the typed reading of every part of a bundle. Fields that nobody knows are
ignored, and null stands for an absent optional field only.

A stage is read twice: its value is settled first, then read as a reference, and
if it is none, as an inline stage. Which of its fields was wrong is not told.
-/

namespace RequestFlow

open RequestFlow.Document
open RequestFlow.Document.Decode

/-- The largest position that is read. -/
def maxPosition : Nat := 0xffffffffffffffff

def ExchangeSide.decode : Decoder ExchangeSide :=
  choice [("request", .request), ("response", .response)]

def MessagePart.decode : Decoder MessagePart :=
  choice [("body", .body), ("header", .header), ("query", .query), ("path", .path),
    ("cookie", .cookie), ("statusCode", .statusCode)]

/-- The part of the message is named `in` or `location`. -/
def AssignmentRule.decode : Decoder AssignmentRule :=
  record [["name"], ["from"], ["in", "location"], ["path"]] fun fields =>
    AssignmentRule.mk <$> fields.required 0 "name" string
      <*> fields.required 1 "from" ExchangeSide.decode
      <*> fields.required 2 "in" MessagePart.decode
      <*> fields.optional 3 (option string) none

def ResponseRules.decode : Decoder ResponseRules :=
  record [["variableAssignments"]] fun fields =>
    ResponseRules.mk <$> fields.optional 0 (list AssignmentRule.decode) []

def Parameters.decode : Decoder Parameters :=
  record [["path"], ["query"], ["header"], ["cookie"]] fun fields =>
    Parameters.mk <$> fields.optional 0 (dict json) ∅
      <*> fields.optional 1 (dict json) ∅
      <*> fields.optional 2 (dict json) ∅
      <*> fields.optional 3 (dict json) ∅

def RequestBody.decode : Decoder RequestBody :=
  record [["mediaType"], ["value"]] fun fields =>
    RequestBody.mk <$> fields.optional 0 (option string) none
      <*> fields.required 1 "value" json

def RequestTemplate.decode : Decoder RequestTemplate :=
  record [["method"], ["url"], ["parameters"], ["body"]] fun fields =>
    RequestTemplate.mk <$> fields.required 0 "method" string
      <*> fields.required 1 "url" string
      <*> fields.optional 2 Parameters.decode Parameters.none
      <*> fields.optional 3 (option RequestBody.decode) none

def StageContent.names : Names :=
  [["operationId"], ["request"], ["auth"], ["defaultResponse"], ["responses"]]

def StageContent.build (fields : Fields) : Located StageContent :=
  StageContent.mk <$> fields.optional 0 (option string) none
    <*> fields.required 1 "request" RequestTemplate.decode
    <*> fields.optional 2 (list string) []
    <*> fields.optional 3 (option string) none
    <*> fields.optional 4 (dict ResponseRules.decode) ∅

def StageContent.decode : Decoder StageContent :=
  record StageContent.names StageContent.build

/-! ## Targets -/

/-- The kinds of targets. -/
inductive TargetKind where
  | operation
  | request
  | credential
deriving DecidableEq, Repr

def TargetKind.all : List (String × TargetKind) :=
  [("operation", .operation), ("request", .request), ("credential", .credential)]

/-- A kind is a word; in a settled tree its place among the kinds will do. -/
def TargetKind.decode : Decoder TargetKind := fun dialect node =>
  match dialect, node with
  | .tree, .number (.int place) =>
      if place < 0 then .error .wrongType
      else
        match TargetKind.all[place.toNat]? with
        | some (_, kind) => .ok kind
        | none => .error .wrongValue
  | _, node => do choose TargetKind.all (← node.text)

/-- The fields of a target, once its kind is known. -/
def Target.decodeFields (kind : TargetKind) : Decoder Target :=
  match kind with
  | .operation => record [["id"]] fun fields =>
      Target.operation <$> fields.required 0 "id" string
  | .request => record [["id"]] fun fields =>
      Target.request <$> fields.required 0 "id" string
  | .credential => record [["id"], ["method"], ["position"]] fun fields =>
      Target.credential <$> fields.required 0 "id" string
        <*> fields.optional 1 (option string) none
        <*> fields.optional 2 (natural maxPosition) 0

/-- Splits the kind from the other fields, which are settled on the way. -/
def Target.splitFields (dialect : Dialect) :
    Option TargetKind → List (Node × Node) → Option Fault →
      Except DecodeError (TargetKind × List (Node × Node))
  | kind?, [], ending => do
      Node.closed ending
      match kind? with
      | some kind => .ok (kind, [])
      | none => .error (.missingField "type")
  | kind?, (key, value) :: rest, ending => do
      let settledKey ← key.settle
      if settledKey matches .string "type" then
        if kind?.isSome then .error (.duplicateField "type")
        else
          let kind ← TargetKind.decode dialect value
          splitFields dialect (some kind) rest ending
      else
        let settled ← value.settle
        let (kind, others) ← splitFields dialect kind? rest ending
        .ok (kind, (settledKey, settled) :: others)

/-- A target says its kind in the field `type`, or as the first item of a sequence. -/
def Target.decode : Decoder Target := fun dialect node =>
  match node with
  | .sequence [] ending => do
      Node.closed ending
      .error (.missingField "type")
  | .sequence (first :: rest) ending => do
      let kind ← TargetKind.decode dialect first
      let settled ← Node.settleItems rest
      Node.closed ending
      Target.decodeFields kind .tree (.sequence settled none)
  | .mapping fields ending => do
      let (kind, others) ← Target.splitFields dialect none fields ending
      Target.decodeFields kind .tree (.mapping others none)
  | .deep _ => .error .malformed
  | other => .error (mismatch other)

/-! ## Stages -/

def Stage.decodeReference : Decoder Stage :=
  record [["ref"], ["environment"]] fun fields =>
    Stage.reference <$> fields.required 0 "ref" Target.decode
      <*> fields.optional 1 (dict json) ∅

def Stage.decodeInline : Decoder Stage :=
  flatRecord (StageContent.names ++ [["environment"]]) fun fields =>
    Stage.inline <$> StageContent.build fields
      <*> fields.optional 5 (dict json) ∅

def Stage.decode : Decoder Stage := fun _ node => do
  let settled ← node.settle
  match Stage.decodeReference .tree settled with
  | .ok stage => .ok stage
  | .error _ =>
      match Stage.decodeInline .tree settled with
      | .ok stage => .ok stage
      | .error _ => .error .noStageShape

/-! ## Operations and credentials -/

def Scenario.decode : Decoder Scenario :=
  record [["key"], ["requests"]] fun fields =>
    Scenario.mk <$> fields.required 0 "key" string
      <*> fields.optional 1 (list Stage.decode) []

def Operation.decode : Decoder Operation :=
  record [["operationId"], ["request"], ["before"], ["after"], ["scenarios"],
      ["authorizationTests"]] fun fields =>
    Operation.mk <$> fields.required 0 "operationId" string
      <*> fields.required 1 "request" StageContent.decode
      <*> fields.optional 2 (list Stage.decode) []
      <*> fields.optional 3 (list Stage.decode) []
      <*> fields.optional 4 (list Scenario.decode) []
      <*> fields.optional 5 (list string) []

def AuthorizationTest.decode : Decoder AuthorizationTest :=
  record [["key"], ["source"], ["target"]] fun fields =>
    AuthorizationTest.mk <$> fields.required 0 "key" string
      <*> fields.optional 1 (list string) []
      <*> fields.optional 2 (list string) []

def CredentialKind.decode : Decoder CredentialKind :=
  choice [("basic", .basic), ("apiKey", .apiKey), ("bearer", .bearer), ("oauth2", .oauth2)]

def CredentialPlace.decode : Decoder CredentialPlace :=
  choice [("header", .header), ("query", .query), ("cookie", .cookie)]

def CredentialMethod.decode : Decoder CredentialMethod :=
  record [["credential"], ["requests"]] fun fields =>
    CredentialMethod.mk <$> fields.required 0 "credential" string
      <*> fields.optional 1 (list Stage.decode) []

def Credential.decode : Decoder Credential :=
  record [["type"], ["in"], ["name"], ["default"], ["methods"]] fun fields =>
    Credential.mk <$> fields.required 0 "type" CredentialKind.decode
      <*> fields.optional 1 (option CredentialPlace.decode) none
      <*> fields.optional 2 (option string) none
      <*> fields.required 3 "default" string
      <*> fields.required 4 "methods" (dict CredentialMethod.decode)

/-! ## Environments and the bundle -/

/-- The only source of variables. -/
def decodeSource : Decoder Unit := choice [("environment", ())]

def EnvironmentVariable.decode : Decoder EnvironmentVariable :=
  record [["from"], ["name"], ["required"], ["default"]] fun fields =>
    (fun _ name required fallback => EnvironmentVariable.mk name required fallback)
      <$> fields.optional 0 decodeSource ()
      <*> fields.required 1 "name" string
      <*> fields.optional 2 bool false
      <*> fields.optional 3 (option json) none

def Environment.decode : Decoder Environment :=
  record [["variables"]] fun fields =>
    Environment.mk <$> fields.optional 0 (dict EnvironmentVariable.decode) ∅

def Bundle.decode : Decoder Bundle :=
  record [["operations"], ["requests"], ["authenticationDetails"], ["before"], ["after"],
      ["environments"], ["authorizationTests"]] fun fields =>
    Bundle.mk <$> fields.optional 0 (dict Operation.decode) ∅
      <*> fields.optional 1 (dict StageContent.decode) ∅
      <*> fields.optional 2 (list (dict Credential.decode)) []
      <*> fields.optional 3 (list Stage.decode) []
      <*> fields.optional 4 (list Stage.decode) []
      <*> fields.optional 5 (dict Environment.decode) ∅
      <*> fields.optional 6 (dict AuthorizationTest.decode) ∅

/-- The bundle that a JSON value describes. -/
def Bundle.ofJson (value : Json) : Except DecodeError Bundle :=
  Bundle.decode .tree (Node.ofJson value)

end RequestFlow
