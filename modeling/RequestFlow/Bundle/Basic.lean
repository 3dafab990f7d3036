import RequestFlow.Json.Basic

/-!
Contract: the bundle, a description of HTTP requests and of how they are run.

Owns: the types of a bundle and of its parts. A bundle is read once and never
changes during a run.

Does not own: lookups (`Bundle.Lookup`), documents (`Bundle.Encoding`,
`Bundle.Decoding`) and consistency (`Validation`).
-/

namespace RequestFlow

/-! ## Rules on exchanges -/

/-- The half of an exchange that a rule reads. -/
inductive ExchangeSide where
  | request
  | response
deriving DecidableEq, Repr

/-- The part of a message that a rule reads. -/
inductive MessagePart where
  | body
  | header
  | query
  | path
  | cookie
  | statusCode
deriving DecidableEq, Repr

/-- Derives a variable from a finished exchange. `path` names the item to read;
for a body it is a pointer or a path query into its JSON value. -/
structure AssignmentRule where
  name : String
  side : ExchangeSide
  part : MessagePart
  path : Option String
deriving DecidableEq, Repr

/-- What to do when a response with a certain status arrives. -/
structure ResponseRules where
  assignments : List AssignmentRule
deriving DecidableEq, Repr

/-! ## Requests -/

/-- The values placed on a request, by the place they go to. -/
structure Parameters where
  path : Dict Json
  query : Dict Json
  header : Dict Json
  cookie : Dict Json
deriving DecidableEq, Repr

def Parameters.none : Parameters := ⟨∅, ∅, ∅, ∅⟩

structure RequestBody where
  mediaType : Option String
  value : Json
deriving DecidableEq, Repr

/-- A request with tokens: a URL template such as `host/users/id`, whose
placeholders are filled from the path parameters. -/
structure RequestTemplate where
  method : String
  url : String
  parameters : Parameters
  body : Option RequestBody
deriving DecidableEq, Repr

/-- A request with the credentials it needs and the rules for its responses.
The keys of `responses` are status codes, classes such as `2XX`, or `default`. -/
structure StageContent where
  operationId : Option String
  request : RequestTemplate
  auth : List String
  defaultResponse : Option String
  responses : Dict ResponseRules
deriving DecidableEq, Repr

/-! ## Stages -/

/-- What a stage may point at. A credential target is one of the acquisition
stages of a method, the default method when none is named. -/
inductive Target where
  | operation (id : String)
  | request (id : String)
  | credential (id : String) (method : Option String) (position : Nat)
deriving DecidableEq, Repr

/-- One request of a playbook, by reference or with its content at hand, and the
variables that hold during this stage alone. -/
inductive Stage where
  | reference (target : Target) (environment : Dict Json)
  | inline (content : StageContent) (environment : Dict Json)
deriving DecidableEq, Repr

def Stage.environment : Stage → Dict Json
  | .reference _ environment => environment
  | .inline _ environment => environment

/-! ## Operations -/

/-- A named list of stages that may take the place of an operation's own request. -/
structure Scenario where
  key : String
  requests : List Stage
deriving DecidableEq, Repr

structure Operation where
  operationId : String
  request : StageContent
  before : List Stage
  after : List Stage
  scenarios : List Scenario
  authorizationTests : List String
deriving DecidableEq, Repr

/-- A check that swaps credentials; it is carried and validated, never run. -/
structure AuthorizationTest where
  key : String
  source : List String
  target : List String
deriving DecidableEq, Repr

/-! ## Credentials -/

inductive CredentialKind where
  | basic
  | apiKey
  | bearer
  | oauth2
deriving DecidableEq, Repr

inductive CredentialPlace where
  | header
  | query
  | cookie
deriving DecidableEq, Repr

/-- A way to obtain a credential: the template of its value, and the stages to
run before the value is filled in. -/
structure CredentialMethod where
  credential : String
  requests : List Stage
deriving DecidableEq, Repr

/-- A credential with its methods. `name` is the header, query parameter or
cookie that an API key goes to. -/
structure Credential where
  kind : CredentialKind
  place : Option CredentialPlace
  name : Option String
  defaultMethod : String
  methods : Dict CredentialMethod
deriving DecidableEq, Repr

/-! ## Environments -/

/-- A variable bound to an entry of the caller's environment. -/
structure EnvironmentVariable where
  name : String
  required : Bool
  fallback : Option Json
deriving DecidableEq, Repr

structure Environment where
  declarations : Dict EnvironmentVariable
deriving DecidableEq, Repr

/-! ## The bundle -/

structure Bundle where
  operations : Dict Operation
  requests : Dict StageContent
  credentialGroups : List (Dict Credential)
  before : List Stage
  after : List Stage
  environments : Dict Environment
  authorizationTests : Dict AuthorizationTest
deriving DecidableEq, Repr

def Bundle.empty : Bundle := ⟨∅, ∅, [], [], [], ∅, ∅⟩

end RequestFlow
