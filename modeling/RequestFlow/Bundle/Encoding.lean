import RequestFlow.Bundle.Basic

/-!
Contract: bundles as JSON values.

Owns: `toJson` of every part of a bundle. Optional parts that are absent are left
out, and so are the lists and maps that are usually empty; the lists of a bundle
and of an operation are always written.
-/

namespace RequestFlow

/-- A member that is left out when the value is absent. -/
def optionalMember {α : Type} (name : String) (encode : α → Json) :
    Option α → List (String × Json)
  | none => []
  | some value => [(name, encode value)]

/-- A member that is left out when the list is empty. -/
def listMember {α : Type} (name : String) (encode : α → Json) :
    List α → List (String × Json)
  | [] => []
  | values => [(name, Json.ofList encode values)]

/-- A member that is left out when the dictionary is empty. -/
def dictMember {α : Type} (name : String) (encode : α → Json) (values : Dict α) :
    List (String × Json) :=
  if values.isEmpty then [] else [(name, Json.ofDictWith encode values)]

/-- A dictionary of JSON values that is left out when it is empty. -/
def valuesMember (name : String) (values : Dict Json) : List (String × Json) :=
  dictMember name id values

def ExchangeSide.word : ExchangeSide → String
  | .request => "request"
  | .response => "response"

def MessagePart.word : MessagePart → String
  | .body => "body"
  | .header => "header"
  | .query => "query"
  | .path => "path"
  | .cookie => "cookie"
  | .statusCode => "statusCode"

def CredentialKind.word : CredentialKind → String
  | .basic => "basic"
  | .apiKey => "apiKey"
  | .bearer => "bearer"
  | .oauth2 => "oauth2"

def CredentialPlace.word : CredentialPlace → String
  | .header => "header"
  | .query => "query"
  | .cookie => "cookie"

def AssignmentRule.toJson (rule : AssignmentRule) : Json :=
  Json.ofFields ([("name", .string rule.name), ("from", .string rule.side.word),
    ("in", .string rule.part.word)] ++ optionalMember "path" Json.string rule.path)

def ResponseRules.toJson (rules : ResponseRules) : Json :=
  Json.ofFields (listMember "variableAssignments" AssignmentRule.toJson rules.assignments)

def Parameters.toJson (parameters : Parameters) : Json :=
  Json.ofFields (valuesMember "path" parameters.path ++ valuesMember "query" parameters.query ++
    valuesMember "header" parameters.header ++ valuesMember "cookie" parameters.cookie)

def RequestBody.toJson (body : RequestBody) : Json :=
  Json.ofFields (optionalMember "mediaType" Json.string body.mediaType ++ [("value", body.value)])

def RequestTemplate.toJson (template : RequestTemplate) : Json :=
  Json.ofFields ([("method", .string template.method), ("url", .string template.url),
    ("parameters", template.parameters.toJson)] ++
    optionalMember "body" RequestBody.toJson template.body)

def StageContent.members (content : StageContent) : List (String × Json) :=
  optionalMember "operationId" Json.string content.operationId ++
    [("request", content.request.toJson)] ++
    listMember "auth" Json.string content.auth ++
    optionalMember "defaultResponse" Json.string content.defaultResponse ++
    dictMember "responses" ResponseRules.toJson content.responses

def StageContent.toJson (content : StageContent) : Json :=
  Json.ofFields content.members

def Target.toJson : Target → Json
  | .operation id => Json.ofFields [("type", .string "operation"), ("id", .string id)]
  | .request id => Json.ofFields [("type", .string "request"), ("id", .string id)]
  | .credential id method position =>
      Json.ofFields ([("type", .string "credential"), ("id", .string id),
        ("position", Json.ofNat position)] ++ optionalMember "method" Json.string method)

/-- The content of an inline stage shares one object with its environment. -/
def Stage.toJson : Stage → Json
  | .reference target environment =>
      Json.ofFields (("ref", target.toJson) :: valuesMember "environment" environment)
  | .inline content environment =>
      Json.ofFields (content.members ++ valuesMember "environment" environment)

def Scenario.toJson (scenario : Scenario) : Json :=
  Json.ofFields [("key", .string scenario.key),
    ("requests", Json.ofList Stage.toJson scenario.requests)]

def Operation.toJson (operation : Operation) : Json :=
  Json.ofFields [("operationId", .string operation.operationId),
    ("request", operation.request.toJson),
    ("before", Json.ofList Stage.toJson operation.before),
    ("after", Json.ofList Stage.toJson operation.after),
    ("scenarios", Json.ofList Scenario.toJson operation.scenarios),
    ("authorizationTests", Json.ofStrings operation.authorizationTests)]

def AuthorizationTest.toJson (test : AuthorizationTest) : Json :=
  Json.ofFields [("key", .string test.key), ("source", Json.ofStrings test.source),
    ("target", Json.ofStrings test.target)]

def CredentialMethod.toJson (method : CredentialMethod) : Json :=
  Json.ofFields (("credential", .string method.credential) ::
    listMember "requests" Stage.toJson method.requests)

def Credential.toJson (credential : Credential) : Json :=
  Json.ofFields ([("type", .string credential.kind.word)] ++
    optionalMember "in" (fun place => .string (CredentialPlace.word place)) credential.place ++
    optionalMember "name" Json.string credential.name ++
    [("default", .string credential.defaultMethod),
      ("methods", Json.ofDictWith CredentialMethod.toJson credential.methods)])

/-- The source of a variable is always the caller's environment. -/
def EnvironmentVariable.toJson (declared : EnvironmentVariable) : Json :=
  Json.ofFields ([("from", .string "environment"), ("name", .string declared.name),
    ("required", .bool declared.required)] ++ optionalMember "default" id declared.fallback)

def Environment.toJson (environment : Environment) : Json :=
  Json.ofFields
    [("variables", Json.ofDictWith EnvironmentVariable.toJson environment.declarations)]

def Bundle.toJson (bundle : Bundle) : Json :=
  Json.ofFields [("operations", Json.ofDictWith Operation.toJson bundle.operations),
    ("requests", Json.ofDictWith StageContent.toJson bundle.requests),
    ("authenticationDetails",
      Json.ofList (Json.ofDictWith Credential.toJson) bundle.credentialGroups),
    ("before", Json.ofList Stage.toJson bundle.before),
    ("after", Json.ofList Stage.toJson bundle.after),
    ("environments", Json.ofDictWith Environment.toJson bundle.environments),
    ("authorizationTests", Json.ofDictWith AuthorizationTest.toJson bundle.authorizationTests)]

end RequestFlow
