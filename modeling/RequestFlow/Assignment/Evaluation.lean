import RequestFlow.Assignment.Cookie
import RequestFlow.Http.Message
import RequestFlow.Json.Pointer
import RequestFlow.JsonPath.Parser
import RequestFlow.JsonPath.Selection
import RequestFlow.Url.Parser
import RequestFlow.Variable.Scope

/-!
Contract: the values that assignment rules take from a finished exchange.

Owns: the evaluation of one rule, its errors, and the scope that a list of rules
sets.

A rule that fails leaves the other rules alone. Of several rules for one variable
the last one that succeeds decides.
-/

namespace RequestFlow

/-- A request and its response. The template still knows the path parameters by
their names; its tokens are replaced. -/
structure Exchange where
  template : RequestTemplate
  request : HttpRequest
  response : HttpResponse
deriving DecidableEq, Repr

inductive AssignmentError where
  | missingPath (part : MessagePart)
  | notFound (part : MessagePart) (name : String) (side : ExchangeSide)
  | responseOnly (part : MessagePart)
  | requestOnly (part : MessagePart)
  | emptyBody (side : ExchangeSide)
  | bodyNotJson (side : ExchangeSide)
  | pointer (error : PointerError)
  | invalidJsonPath (path : String) (error : JsonPath.PathError)
  | noMatch (path : String)
deriving DecidableEq, Repr

def AssignmentError.message : AssignmentError → String
  | .missingPath part => "missing path for " ++ part.word ++ " assignment"
  | .notFound part name side => part.word ++ " '" ++ name ++ "' not found in " ++ side.word
  | .responseOnly part => part.word ++ " is not available on the request"
  | .requestOnly part => part.word ++ " is not available on the response"
  | .emptyBody side => side.word ++ " body is empty"
  | .bodyNotJson side => side.word ++ " body is not JSON"
  | .pointer error => error.message
  | .invalidJsonPath path error => "invalid JSONPath '" ++ path ++ "': " ++ error.message
  | .noMatch path => "JSONPath '" ++ path ++ "' matched nothing"

namespace AssignmentRule

/-- The path of a rule, unless it is empty. -/
def path? (rule : AssignmentRule) : Option String :=
  rule.path.filter fun path => !path.isEmpty

/-- What a rule finds under the name that its path gives. -/
def named (rule : AssignmentRule) (find : String → Option Json) : Except AssignmentError Json :=
  match rule.path? with
  | none => .error (.missingPath rule.part)
  | some name =>
      match find name with
      | some value => .ok value
      | none => .error (.notFound rule.part name rule.side)

/-- The part of a JSON value at a path: a JSON path if it starts with a dollar
sign, a pointer otherwise. Of several nodes the first one counts. -/
def valueAt (value : Json) (path : String) : Except AssignmentError Json :=
  match path.toList with
  | '$' :: _ =>
      match JsonPath.parse path with
      | .error error => .error (.invalidJsonPath path error)
      | .ok steps =>
          match (JsonPath.nodes steps value).head? with
          | some node => .ok node
          | none => .error (.noMatch path)
  | _ =>
      match Pointer.parse path with
      | .error error => .error (.pointer error)
      | .ok pointer => (pointer.lookup value).mapError .pointer

/-- The value of a body. Without a path a body that is not JSON is taken as text. -/
def bodyValue (body : String) (path : Option String) (side : ExchangeSide) :
    Except AssignmentError Json :=
  if body.isEmpty then .error (.emptyBody side)
  else
    match path, bodyJson? body with
    | none, some value => .ok value
    | none, none => .ok (.string body)
    | some _, none => .error (.bodyNotJson side)
    | some path, some value => valueAt value path

/-- The decoded value of the first query pair with a name. -/
def queryValue? (url name : String) : Option String :=
  match Url.parse url with
  | .ok url => (url.queryPairs.find? fun pair => pair.1 == name).map Prod.snd
  | .error _ => none

/-- The text of a message's body. -/
def bodyOf (exchange : Exchange) : ExchangeSide → String
  | .request => exchange.request.body.getD ""
  | .response => exchange.response.body

def headerOf (exchange : Exchange) : ExchangeSide → String → Option String
  | .request => exchange.request.header?
  | .response => exchange.response.header?

/-- The header that holds the cookies of a message. -/
def cookieHeaderOf : ExchangeSide → String
  | .request => "cookie"
  | .response => "set-cookie"

def evaluate (rule : AssignmentRule) (exchange : Exchange) : Except AssignmentError Json :=
  match rule.part, rule.side with
  | .statusCode, .response => .ok (Json.ofNat exchange.response.status)
  | .statusCode, .request => .error (.responseOnly .statusCode)
  | .query, .response => .error (.requestOnly .query)
  | .path, .response => .error (.requestOnly .path)
  | .body, side => bodyValue (bodyOf exchange side) rule.path? side
  | .header, side => rule.named fun name => (headerOf exchange side name).map Json.string
  | .query, .request =>
      rule.named fun name => (queryValue? exchange.request.url name).map Json.string
  | .path, .request => rule.named exchange.template.parameters.path.get?
  | .cookie, side =>
      rule.named fun name =>
        ((headerOf exchange side (cookieHeaderOf side)).bind fun header =>
          Cookie.value? header name).map Json.string

end AssignmentRule

/-- What a list of rules gives: the rules that succeed with their values, and the
variables of those that fail with the reasons. -/
structure Assigned where
  values : List (AssignmentRule × Json)
  errors : List (String × AssignmentError)
deriving DecidableEq, Repr

namespace Assigned

def ofRules (exchange : Exchange) : List AssignmentRule → Assigned
  | [] => ⟨[], []⟩
  | rule :: rest =>
      let later := ofRules exchange rest
      match rule.evaluate exchange with
      | .ok value => ⟨(rule, value) :: later.values, later.errors⟩
      | .error error => ⟨later.values, (rule.name, error) :: later.errors⟩

/-- The scope of the rules that succeed, if there are any. -/
def scope? (assigned : Assigned) (id : String) : Option Scope :=
  if assigned.values.isEmpty then none
  else
    some ⟨id, Dict.ofList (assigned.values.map fun (rule, value) => (rule.name, value)),
      assigned.values.map Prod.fst⟩

end Assigned

end RequestFlow
