import RequestFlow.Bundle.Encoding
import RequestFlow.Document.Decode
import RequestFlow.Document.JsonText

/-!
Contract: the two messages of an HTTP exchange.

Owns: requests and responses as they are handed over, their documents, the
lookup of a header, and the JSON value of a response body.

Header names are kept as they are given and compared without regard to the case
of ASCII letters. Of several spellings of one name, the first in key order counts.
-/

namespace RequestFlow

/-- Header names and values. -/
abbrev Headers := Dict String

namespace Headers

/-- The value of the first header with a name, in any letter case. -/
def value? (headers : Headers) (name : String) : Option String :=
  (headers.entries.find? fun header => Text.sameIgnoringCase header.1 name).map Prod.snd

/-- Sets a header in place of every spelling of its name. -/
def set (headers : Headers) (name value : String) : Headers :=
  (headers.filter fun other _ => !Text.sameIgnoringCase other name).insert name value

def toJson (headers : Headers) : Json :=
  Json.ofDictWith Json.string headers

open Document Decode in
def decode : Decoder Headers := dict string

end Headers

structure HttpRequest where
  method : String
  url : String
  headers : Headers
  body : Option String
deriving DecidableEq, Repr

structure HttpResponse where
  status : Nat
  headers : Headers
  body : String
deriving DecidableEq, Repr

/-- The largest status that is read. -/
def maxStatus : Nat := 0xffff

namespace HttpRequest

def toJson (request : HttpRequest) : Json :=
  Json.ofFields ([("method", .string request.method), ("url", .string request.url),
    ("headers", request.headers.toJson)] ++ optionalMember "body" Json.string request.body)

open Document Decode in
def decode : Decoder HttpRequest :=
  record [["method"], ["url"], ["headers"], ["body"]] fun fields =>
    HttpRequest.mk <$> fields.required 0 "method" string
      <*> fields.required 1 "url" string
      <*> fields.optional 2 Headers.decode ∅
      <*> fields.optional 3 (option string) none

def header? (request : HttpRequest) (name : String) : Option String :=
  request.headers.value? name

end HttpRequest

namespace HttpResponse

/-- A response without headers and with an empty body. -/
def ofStatus (status : Nat) : HttpResponse := ⟨status, ∅, ""⟩

def toJson (response : HttpResponse) : Json :=
  Json.ofFields [("statusCode", Json.ofNat response.status),
    ("headers", response.headers.toJson), ("body", .string response.body)]

open Document Decode in
def decode : Decoder HttpResponse :=
  record [["statusCode"], ["headers"], ["body"]] fun fields =>
    HttpResponse.mk <$> fields.required 0 "statusCode" (natural maxStatus)
      <*> fields.optional 1 Headers.decode ∅
      <*> fields.optional 2 string ""

def header? (response : HttpResponse) (name : String) : Option String :=
  response.headers.value? name

end HttpResponse

/-- The JSON value that a body writes, if it writes one. -/
def bodyJson? (body : String) : Option Json :=
  (Document.JsonText.toJson body).toOption

end RequestFlow
