import RequestFlow.Bundle.Basic
import RequestFlow.Text.Ascii
import RequestFlow.Text.Split

/-!
Contract: finding parts of a bundle.

Owns: the reading of an `auth` entry, the lookup of credentials, methods,
scenarios and response rules, the labels of targets, and the list of all stage
lists of a bundle with their locations.

Credentials may be declared in several groups. The first group that has a name
decides.
-/

namespace RequestFlow

/-- An entry of a stage's `auth` list: a credential, and a method if one is named. -/
structure AuthRef where
  name : String
  method : Option String
deriving DecidableEq, Repr

/-- The credential's name ends at the first slash. A method that is empty counts
as not named. -/
def AuthRef.parse (text : String) : AuthRef :=
  match Text.cutString '/' text with
  | some (name, method) => if method.isEmpty then ⟨name, none⟩ else ⟨name, some method⟩
  | none => ⟨text, none⟩

/-- The named method of a credential, the default one when none is named. -/
def Credential.method? (credential : Credential) (name : Option String) :
    Option (String × CredentialMethod) :=
  let name := name.getD credential.defaultMethod
  (credential.methods.get? name).map fun method => (name, method)

/-- The first scenario with a key, and its place. -/
def Operation.scenario? (operation : Operation) (key : String) : Option (Nat × Scenario) :=
  (operation.scenarios.zipIdx.find? fun entry => entry.1.key == key).map
    fun (scenario, index) => (index, scenario)

namespace Target

def id : Target → String
  | .operation id => id
  | .request id => id
  | .credential id _ _ => id

/-- How a target is named in reports and errors. -/
def label : Target → String
  | .operation id => "operation:" ++ id
  | .request id => "request:" ++ id
  | .credential id (some method) position =>
      "credential:" ++ id ++ "/" ++ method ++ "[" ++ Text.natText position ++ "]"
  | .credential id none position => "credential:" ++ id ++ "[" ++ Text.natText position ++ "]"

end Target

/-- A body is written as JSON when it has no media type or a JSON one. -/
def RequestBody.isJson (body : RequestBody) : Bool :=
  match body.mediaType with
  | none => true
  | some mediaType =>
      let lower := (Text.lower mediaType).toList
      (Text.after? "application/json".toList lower).isSome ||
        (Text.after? "+json".toList.reverse lower.reverse).isSome

namespace StageContent

/-- The rules for a status: those of the exact code, else of its class in any
letter case, else of `default`, else of the declared default response. -/
def responseFor (content : StageContent) (status : Nat) : Option ResponseRules :=
  let statusClass := Text.natText (status / 100) ++ "XX"
  let ofClass := (content.responses.entries.find? fun entry =>
    Text.sameIgnoringCase entry.1 statusClass).map Prod.snd
  content.responses.get? (Text.natText status)
    <|> ofClass
    <|> content.responses.get? "default"
    <|> content.defaultResponse.bind content.responses.get?

end StageContent

namespace Bundle

def credential? (bundle : Bundle) (name : String) : Option Credential :=
  bundle.credentialGroups.findSome? fun group => group.get? name

/-- The names of all credentials in declaration order, repeated ones included. -/
def credentialNames (bundle : Bundle) : List String :=
  bundle.credentialGroups.flatMap Dict.keys

/-- Whether an `auth` entry names a declared credential. -/
def hasCredential (bundle : Bundle) (auth : String) : Bool :=
  (bundle.credential? (AuthRef.parse auth).name).isSome

/-- Whether a target exists. -/
def hasTarget (bundle : Bundle) : Target → Bool
  | .operation id => bundle.operations.contains id
  | .request id => bundle.requests.contains id
  | .credential id method position =>
      match (bundle.credential? id).bind (·.method? method) with
      | some (_, found) => decide (position < found.requests.length)
      | none => false

/-- A stage list and where in the bundle it stands. -/
structure StageList where
  location : String
  stages : List Stage
deriving DecidableEq, Repr

def operationStageLists (id : String) (operation : Operation) : List StageList :=
  let location := "$.operations." ++ id
  [⟨location ++ ".before", operation.before⟩, ⟨location ++ ".after", operation.after⟩] ++
    operation.scenarios.zipIdx.map fun (scenario, index) =>
      ⟨location ++ ".scenarios[" ++ Text.natText index ++ "].requests", scenario.requests⟩

def credentialStageLists (group : Nat) (name : String) (credential : Credential) :
    List StageList :=
  credential.methods.entries.map fun (method, found) =>
    ⟨"$.authenticationDetails[" ++ Text.natText group ++ "]." ++ name ++ ".methods." ++ method ++
      ".requests", found.requests⟩

/-- Every stage list of a bundle. -/
def stageLists (bundle : Bundle) : List StageList :=
  [⟨"$.before", bundle.before⟩, ⟨"$.after", bundle.after⟩] ++
    bundle.operations.entries.flatMap (fun (id, operation) => operationStageLists id operation) ++
    bundle.credentialGroups.zipIdx.flatMap fun (group, index) =>
      group.entries.flatMap fun (name, credential) => credentialStageLists index name credential

end Bundle

end RequestFlow
