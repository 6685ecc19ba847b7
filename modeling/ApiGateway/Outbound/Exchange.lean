import ApiGateway.Event
import ApiGateway.Outbound.Message

/-! # Exchanges with instances

A request is sent once to the chosen instance. Whatever comes back is relayed; if nothing does, the
client gets one of two fixed answers, and only the log tells the cause.
-/

namespace ApiGateway

/-- How an exchange ends: after some milliseconds with an answer, or with the cause why there is
none. -/
structure Outcome where
  duration : Nat
  answer : Except Text Response
  deriving Repr

/-- How the instances behave towards one request. -/
abbrev Network := Outbound → Outcome

/-- What has happened while requests were answered: the messages to instances in order, and the
log. -/
structure Record where
  sent : List Outbound := []
  events : List Event := []
  deriving DecidableEq, Repr

namespace Exchange

/-- An answer on its way to the client: its body is passed on as it arrives. -/
def relay (answer : Response) : Response :=
  { answer with
    fields := HopByHop.strip answer.fields
    body := .streamed (Outbound.bytesOf answer.body) answer.body.content?.isSome }

/-- Whether an exchange took longer than a limit in milliseconds allows. -/
def isLate (limit : Option Nat) (outcome : Outcome) : Bool := limit.any (· < outcome.duration)

def response (limit : Option Nat) (outcome : Outcome) : Response :=
  if isLate limit outcome then .gatewayTimeout
  else match outcome.answer with
  | .ok answer => relay answer
  | .error _ => .badGateway

def events (limit : Option Nat) (outcome : Outcome) (chosen : Instance) (method path : Text) :
    List Event :=
  if isLate limit outcome then [.backendTimedOut chosen method path (limit.getD 0)]
  else match outcome.answer with
  | .ok _ => []
  | .error cause => [.backendUnavailable chosen method path cause]

def forward (network : Network) (limit : Option Nat) (chosen : Instance) (path : Text)
    (request : Request) : Response × Record :=
  let outbound := Outbound.ofRequest chosen path request
  let outcome := network outbound
  (response limit outcome,
    { sent := [outbound], events := events limit outcome chosen request.method path })

end Exchange

end ApiGateway
