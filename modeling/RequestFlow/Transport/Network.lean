import RequestFlow.Text.Utf8
import RequestFlow.Transport.Basic

/-!
Contract: requests that are sent over the network.

Owns: what a client for the protocol is made for and handed, and what becomes of what it
answers: faults by their kinds, headers that come several times, bodies that are too long, and
bytes that are no text.

Does not own: the client, which is given.
-/

namespace RequestFlow.Network

/-- What a client is made for. -/
structure ClientOptions where
  followsRedirects : Bool
  userAgent : String
deriving DecidableEq, Repr

/-- Redirects are not followed, so that every hop is told as it was sent. -/
def clientOptions : ClientOptions := ⟨false, "playbook-exec/0.1.0"⟩

/-- After how many milliseconds a request is given up, and how long a body may be. -/
structure Limits where
  timeout : Nat
  maxBytes : Nat
deriving DecidableEq, Repr

/-- Why a client has no answer. -/
structure Fault where
  isTimeout : Bool
  isConnect : Bool
  isRequest : Bool
  reason : String
deriving DecidableEq, Repr

/-- A fault that is a timeout counts as one, whatever else it is. -/
def Fault.error (fault : Fault) : TransportError :=
  if fault.isTimeout then .timeout
  else if fault.isConnect || fault.isRequest then .network fault.reason
  else .other fault.reason

/-- What a client answers: the header fields in the order in which they came in, with their names
in lower case and no value if it is no text, and the bytes of the body. -/
structure Arrival where
  status : Nat
  fields : List (String × Option String)
  body : List UInt8
deriving DecidableEq, Repr

/-- A client for the protocol: why a text is no method, and the exchange of a request, in view
of those before it and given up after so many milliseconds. -/
structure Client where
  methodFault? : String → Option String
  exchange : (before : List HttpRequest) → (timeout : Nat) → HttpRequest →
    Except Fault Arrival

/-- Takes a header field. Further values of a name are put behind the first one. -/
def addField (headers : Headers) (field : String × Option String) : Headers :=
  match field.2, headers.get? field.1 with
  | none, _ => headers
  | some value, none => headers.insert field.1 value
  | some value, some joined => headers.insert field.1 (joined ++ ", " ++ value)

def headersOf (fields : List (String × Option String)) : Headers :=
  fields.foldl addField ∅

/-- The reply that an answer makes. Bytes that are no text are replaced. -/
def Arrival.reply (maxBytes : Nat) (arrival : Arrival) : Reply :=
  if arrival.body.length > maxBytes then .failure (.responseTooLarge maxBytes)
  else
    .response ⟨arrival.status, headersOf arrival.fields, String.ofList (Text.ofBytes arrival.body)⟩

/-- The transport that hands requests to a client. -/
def Client.transport (client : Client) (limits : Limits) : Transport := fun before request =>
  match client.methodFault? request.method with
  | some reason => .failure (.other reason)
  | none =>
      match client.exchange before limits.timeout request with
      | .error fault => .failure fault.error
      | .ok arrival => arrival.reply limits.maxBytes

/-- The transport of a client that is made for it, or why none can be made. -/
def connect (makeClient : ClientOptions → Except String Client) (limits : Limits) :
    Except TransportError Transport :=
  match makeClient clientOptions with
  | .error reason => .error (.other reason)
  | .ok client => .ok (client.transport limits)

end RequestFlow.Network
