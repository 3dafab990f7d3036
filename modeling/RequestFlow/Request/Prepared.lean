import RequestFlow.Bundle.Lookup
import RequestFlow.Http.Message
import RequestFlow.Request.Placeholder
import RequestFlow.Text.Base64
import RequestFlow.Url.Parser

/-!
Contract: requests that are ready to be sent.

Owns: the preparation of a request from a template without tokens, the changes
that may follow it, and the placing of credentials.

A prepared request goes to a web URL, its method is in capitals, and a body comes
with a content type.
-/

namespace RequestFlow

inductive PrepareError where
  | invalidUrl (url : String) (error : UrlError)
  | unsupportedScheme (scheme : String)
  | credentialName (credential : String)
deriving DecidableEq, Repr

def PrepareError.message : PrepareError → String
  | .invalidUrl url error => "invalid url '" ++ url ++ "': " ++ error.message
  | .unsupportedScheme scheme =>
      "unsupported url scheme '" ++ scheme ++ "' (expected http or https)"
  | .credentialName credential => "credential '" ++ credential ++ "' has no parameter name"

structure PreparedRequest where
  method : String
  url : WebUrl
  headers : Headers
  body : Option String
deriving DecidableEq, Repr

/-- A credential with its value. -/
structure AcquiredCredential where
  name : String
  credential : Credential
  value : String
deriving DecidableEq, Repr

def cookieHeader : String := "Cookie"

def contentTypeHeader : String := "Content-Type"

def authorizationHeader : String := "Authorization"

namespace PreparedRequest

def toHttp (request : PreparedRequest) : HttpRequest :=
  ⟨request.method, request.url.toString, request.headers, request.body⟩

def setHeader (request : PreparedRequest) (name value : String) : PreparedRequest :=
  { request with headers := request.headers.set name value }

def appendQuery (request : PreparedRequest) (name value : String) : PreparedRequest :=
  { request with url := request.url.appendPair name value }

/-- Adds a cookie to the first cookie header, or to a new one. -/
def appendCookie (request : PreparedRequest) (name value : String) : PreparedRequest :=
  let cookie := name ++ "=" ++ value
  match request.headers.entries.find? fun header =>
      Text.sameIgnoringCase header.1 cookieHeader with
  | some (key, cookies) =>
      { request with headers := request.headers.insert key (cookies ++ "; " ++ cookie) }
  | none => { request with headers := request.headers.insert cookieHeader cookie }

/-! ## Preparation -/

/-- The values that a query parameter sends: one for each item of a list. -/
def queryValues : Json → List String
  | .array items => items.map Json.plainText
  | value => [value.plainText]

/-- The URL of a template, with its path parameters filled in. -/
def targetUrl (template : RequestTemplate) : Except PrepareError WebUrl :=
  let text := Placeholder.fill template.parameters.path template.url
  match Url.parse text with
  | .error error => .error (.invalidUrl text error)
  | .ok (.other scheme _) => .error (.unsupportedScheme scheme)
  | .ok (.web url) => .ok url

/-- Adds the query parameters in key order. Any parameter opens the query, even
one that sends no value. -/
def addQuery (parameters : Dict Json) (url : WebUrl) : WebUrl :=
  if parameters.isEmpty then url
  else
    parameters.entries.foldl (fun url (name, value) =>
      (queryValues value).foldl (fun url text => url.appendPair name text) url) url.openQuery

def addHeaders (parameters : Dict Json) (request : PreparedRequest) : PreparedRequest :=
  parameters.entries.foldl (fun request (name, value) =>
    request.setHeader name value.plainText) request

def addCookies (parameters : Dict Json) (request : PreparedRequest) : PreparedRequest :=
  parameters.entries.foldl (fun request (name, value) =>
    request.appendCookie name value.plainText) request

def bodyText (body : RequestBody) : String :=
  if body.isJson then body.value.compact else body.value.plainText

/-- Adds a body, and a content type if no header gives one. -/
def addBody (body : Option RequestBody) (request : PreparedRequest) : PreparedRequest :=
  match body with
  | none => request
  | some body =>
      let typed :=
        if (request.headers.value? contentTypeHeader).isSome then request
        else request.setHeader contentTypeHeader (body.mediaType.getD "application/json")
      { typed with body := some (bodyText body) }

/-- Prepares the request of a template. -/
def prepare (template : RequestTemplate) : Except PrepareError PreparedRequest := do
  let url ← targetUrl template
  let parameters := template.parameters
  let bare : PreparedRequest :=
    ⟨Text.upper template.method, addQuery parameters.query url, ∅, none⟩
  .ok (addBody template.body (addCookies parameters.cookie (addHeaders parameters.header bare)))

/-! ## Credentials -/

/-- Places a credential: an API key where it belongs, all others in the
authorization header. -/
def applyCredential (request : PreparedRequest) (acquired : AcquiredCredential) :
    Except PrepareError PreparedRequest :=
  match acquired.credential.kind with
  | .apiKey =>
      match acquired.credential.name with
      | none => .error (.credentialName acquired.name)
      | some name =>
          match acquired.credential.place.getD .header with
          | .header => .ok (request.setHeader name acquired.value)
          | .query => .ok (request.appendQuery name acquired.value)
          | .cookie => .ok (request.appendCookie name acquired.value)
  | .bearer | .oauth2 =>
      .ok (request.setHeader authorizationHeader ("Bearer " ++ acquired.value))
  | .basic =>
      let encoded := String.ofList (Text.base64 (Text.bytes acquired.value.toList))
      .ok (request.setHeader authorizationHeader ("Basic " ++ encoded))

end PreparedRequest

end RequestFlow
