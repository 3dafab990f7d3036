import RequestFlow.Transport.Basic

/-!
Contract: exchanges whose replies come in later and in any order.

Owns: the state of a live transport: the table of requests that wait for a reply,
the clock, and what became of each request.

Every request gets a number that no other request has, and its reply names the
number. A request waits until a reply for it comes in, until its sender finds its
time over, or until its sender gives up. The table loses an entry when a reply for
it comes in and when its time is found over; a sender who gives up leaves the entry
behind.

Senders look at the clock at times of their own (`expireOne`). With `send` and
`advance` they all look at once.
-/

namespace RequestFlow

/-- A request as it is handed out. -/
structure OutboundRequest where
  correlationId : String
  request : HttpRequest
deriving DecidableEq, Repr

namespace OutboundRequest

def toJson (outbound : OutboundRequest) : Json :=
  Json.ofFields [("correlationId", .string outbound.correlationId),
    ("request", outbound.request.toJson)]

open Document Decode in
def decode : Decoder OutboundRequest :=
  record [["correlationId"], ["request"]] fun fields =>
    OutboundRequest.mk <$> fields.required 0 "correlationId" string
      <*> fields.required 1 "request" HttpRequest.decode

end OutboundRequest

namespace Live

/-- What became of a request. -/
inductive Sending where
  | waiting (deadline : Option Nat)
  | settled (reply : Reply)
  | cancelled
deriving DecidableEq, Repr

/-- The requests by their numbers, the numbers of those that were handed out, the
numbers in the table, the time, and whether requests can still be handed out.
`timeout` is the time a request may wait. -/
structure State where
  timeout : Option Nat
  now : Nat
  isClosed : Bool
  sendings : List Sending
  handedOut : List Nat
  table : List Nat
deriving DecidableEq, Repr

namespace State

def start (timeout : Option Nat) : State := ⟨timeout, 0, false, [], [], []⟩

/-- How many requests the table holds. -/
def pending (state : State) : Nat := state.table.length

def sending? (state : State) (number : Nat) : Option Sending := state.sendings[number]?

def change (state : State) (number : Nat) (sending : Sending) : State :=
  { state with sendings := state.sendings.set number sending }

def forget (state : State) (number : Nat) : State :=
  { state with table := state.table.filter fun other => other != number }

/-- Whether a request waits and its time is over. -/
def isOverdue (state : State) (number : Nat) : Bool :=
  match state.sending? number with
  | some (.waiting (some deadline)) => deadline ≤ state.now
  | _ => false

/-- Ends a request whose time is over. -/
def expireOne (state : State) (number : Nat) : State :=
  if state.isOverdue number then
    (state.change number (.settled (.failure .timeout))).forget number
  else state

/-- Ends all requests whose time is over. -/
def expire (state : State) : State :=
  (List.range state.sendings.length).foldl expireOne state

/-- A new request waits, and the table has its number. -/
def register (state : State) : State :=
  { state with
    sendings := state.sendings ++ [.waiting (state.timeout.map fun time => state.now + time)]
    table := state.table ++ [state.sendings.length] }

/-- Registers a request and hands it out. One that cannot be handed out ends and is
forgotten. The second part tells whether it was handed out. -/
def post (state : State) : State × Bool :=
  let number := state.sendings.length
  if state.isClosed then
    ((state.register.change number (.settled (.failure .channelClosed))).forget number, false)
  else ({ state.register with handedOut := state.handedOut ++ [number] }, true)

/-- Hands a request out, and lets the senders look at the clock. -/
def send (state : State) : State × Bool :=
  (state.post.1.expire, state.post.2)

/-- Brings in a reply. The second part tells whether its request was waiting. -/
def deliver (state : State) (number : Nat) (reply : Reply) : State × Bool :=
  if state.table.contains number then
    let rest := state.forget number
    match state.sending? number with
    | some (.waiting _) => (rest.change number (.settled reply), true)
    | _ => (rest, false)
  else (state, false)

def elapse (state : State) (time : Nat) : State := { state with now := state.now + time }

/-- Time goes by, and the senders look at the clock. -/
def advance (state : State) (time : Nat) : State := (state.elapse time).expire

/-- The sender of a request gives up. -/
def cancel (state : State) (number : Nat) : State :=
  match state.sending? number with
  | some (.waiting _) => state.change number .cancelled
  | _ => state

/-- From now on no request can be handed out. -/
def close (state : State) : State := { state with isClosed := true }

end State

end Live

end RequestFlow
