import RequestFlow.Http.Message

/-!
Contract: how requests get their replies.

Owns: the ways in which an exchange fails, replies, and transports, which answer
a request in view of the requests sent before it. One transport is given, which
always gives the same response.

Does not own: the transport over the network (`Transport.Network`), and waiting
for replies that come in later (`Transport.Live`).
-/

namespace RequestFlow

/-- Why no response arrived. -/
inductive TransportError where
  | timeout
  | network (reason : String)
  | responseTooLarge (maxBytes : Nat)
  | channelClosed
  | other (reason : String)
deriving DecidableEq, Repr

/-- The kinds of transport errors. -/
inductive TransportErrorKind where
  | timeout
  | network
  | responseTooLarge
  | channelClosed
  | other
deriving DecidableEq, Repr

namespace TransportError

def message : TransportError → String
  | .timeout => "timeout"
  | .network reason => "connect/dns/tls error: " ++ reason
  | .responseTooLarge maxBytes => "response too large (>" ++ Text.natText maxBytes ++ " bytes)"
  | .channelClosed => "reply channel closed"
  | .other reason => "http error: " ++ reason

/-- The kind of an error, with its content if it has any. -/
def toJson : TransportError → Json
  | .timeout => Json.ofFields [("kind", .string "timeout")]
  | .network reason => Json.ofFields [("kind", .string "network"), ("message", .string reason)]
  | .responseTooLarge maxBytes =>
      Json.ofFields [("kind", .string "responseTooLarge"),
        ("message", Json.ofFields [("max_bytes", Json.ofNat maxBytes)])]
  | .channelClosed => Json.ofFields [("kind", .string "channelClosed")]
  | .other reason => Json.ofFields [("kind", .string "other"), ("message", .string reason)]

/-- The largest size that is read. -/
def maxSize : Nat := 0xffffffffffffffff

open Document Decode

/-- The content of a kind. Kinds without content take a null. -/
def decodeContent : TransportErrorKind → Decoder TransportError
  | .timeout => fun _ node => (expectNull node).map fun _ => .timeout
  | .channelClosed => fun _ node => (expectNull node).map fun _ => .channelClosed
  | .network => fun dialect node => (string dialect node).map .network
  | .other => fun dialect node => (string dialect node).map .other
  | .responseTooLarge => flatRecord [["max_bytes"]] fun fields =>
      TransportError.responseTooLarge <$> fields.required 0 "max_bytes" (natural maxSize)

def form : KindForm TransportErrorKind TransportError where
  kindName := "kind"
  contentName := "message"
  kinds := [("timeout", .timeout), ("network", .network),
    ("responseTooLarge", .responseTooLarge), ("channelClosed", .channelClosed),
    ("other", .other)]
  content := decodeContent
  alone?
    | .timeout => some .timeout
    | .channelClosed => some .channelClosed
    | .network | .responseTooLarge | .other => none

def decode : Decoder TransportError := form.decode

end TransportError

/-- What a request got for an answer. -/
inductive Reply where
  | response (response : HttpResponse)
  | failure (error : TransportError)
deriving DecidableEq, Repr

/-- The reply to a request, in view of the requests that were sent before it,
the oldest first. -/
abbrev Transport := (before : List HttpRequest) → HttpRequest → Reply

namespace Transport

/-- Gives the same response to every request. -/
def constant (response : HttpResponse) : Transport := fun _ _ => .response response

end Transport

end RequestFlow
