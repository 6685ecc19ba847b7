import ApiGateway.Auth.Bearer
import ApiGateway.Http.Cors
import ApiGateway.Http.Framing
import ApiGateway.Outbound.Exchange
import ApiGateway.Route.Table

/-! # The gateway

A request passes from outside to inside: identification, the policy for cross-origin requests, the
health check, the bearer token, the index of services, and at last the routing table, which chooses
an instance. The only thing that changes from one request to the next is whose turn it is in each
pool.
-/

namespace ApiGateway

structure Gateway where
  verifier : Verifier
  cors : CorsPolicy
  /-- How many milliseconds an exchange may take. -/
  limit : Option Nat := none
  deriving DecidableEq, Repr

/-- A request at the gate: when it arrives, the identifier that it gets if it has none, and how the
instances behave while it is answered. -/
structure Arrival where
  request : Request
  now : Nat
  freshId : FieldValue
  network : Network

structure Traffic where
  routes : RouteTable
  record : Record := {}
  deriving DecidableEq, Repr

abbrev Serve := StateM Traffic

namespace Serve

def log (event : Event) : Serve Unit :=
  modify fun t => { t with record.events := t.record.events ++ [event] }

def note (record : Record) : Serve Unit :=
  modify fun t =>
    { t with record := ⟨t.record.sent ++ record.sent, t.record.events ++ record.events⟩ }

def select (service : Text) : Serve (Option Instance) :=
  modifyGet fun t =>
    let (picked, routes) := t.routes.select service
    (picked, { t with routes })

end Serve

namespace Gateway

def withQuery (path : Text) : Option Text → Text
  | some query => path ++ '?' :: query
  | none => path

/-- Sends a request to the next instance of the service that its path names. -/
def forward (gateway : Gateway) (network : Network) (request : Request) : Serve Response := do
  let path := request.target.path
  match (← get).routes.resolve path with
  | none =>
    Serve.log (.serviceNotFound request.id request.method path)
    pure .serviceNotFound
  | some found =>
    let service := found.pool.name
    match ← Serve.select service with
    | none =>
      Serve.log (.poolEmpty service)
      Serve.log (.noBackend request.id service)
      pure .noBackend
    | some chosen =>
      let path := Path.join chosen.basePath found.strippedPath
      Serve.log (.routing request.id request.method request.target.text service chosen
        (withQuery path request.target.query))
      let (response, record) := Exchange.forward network gateway.limit chosen path request
      Serve.note record
      pure response

/-- Tells which paths lead to services, in the order of their names. -/
def indexText (services : List Text) : Text :=
  match services.mergeSort Text.precedes with
  | [] => "gateway: no services configured\n"
  | services =>
    "gateway: try " ++ Text.join " or " (services.map fun s => '/' :: s ++ "/...") ++ "\n"

def index : Serve Response := do
  pure (.phrase 200 (indexText (← get).routes.services))

def requireBearer (gateway : Gateway) (now : Nat) (handler : Request → Serve Response)
    (request : Request) : Serve Response := do
  let verdict := Bearer.check gateway.verifier now request
  Serve.log (Bearer.event request verdict)
  match verdict with
  | .ok _ => handler request
  | .error _ => pure .unauthorized

def indexPath : Text := "/"

def healthPath : Text := "/healthz"

def protectedHandler (gateway : Gateway) (network : Network) (request : Request) :
    Serve Response :=
  if request.target.path = indexPath then index else gateway.forward network request

def healthMethods : List Text := ["GET", "HEAD"]

/-- Whether the gateway is alive can be asked without a token. -/
def health (request : Request) : Response :=
  if healthMethods.contains request.method then
    { status := 200, fields := [(.contentType, .ofText "text/plain")],
      body := .sized (Text.utf8 "ok") }
  else { status := 405 }

/-- What stands behind the policy for cross-origin requests. -/
def dispatch (gateway : Gateway) (now : Nat) (network : Network) (request : Request) :
    Serve Response :=
  if request.target.path = healthPath then pure (health request)
  else gateway.requireBearer now (gateway.protectedHandler network) request

/-- The request with an identifier: its own, or else a fresh one. -/
def identify (freshId : FieldValue) (request : Request) : Request :=
  if request.fields.contains .xRequestId then request
  else { request with fields := request.fields.append .xRequestId freshId }

/-- Gives a response the identifier of its request, if it has none. -/
def returnId (request : Request) (response : Response) : Response :=
  match request.fields.first? .xRequestId with
  | some id =>
    if response.fields.contains .xRequestId then response
    else { response with fields := response.fields.append .xRequestId id }
  | none => response

/-- Where only some methods are served, the response to any other method lists them, also when the
policy for cross-origin requests gave it. -/
def listMethods (request : Request) (response : Response) : Response :=
  if request.target.path = healthPath ∧ !healthMethods.contains request.method then
    let methods : FieldValue := .ofText (Text.join "," healthMethods)
    { response with fields := response.fields.append .allow methods }
  else response

def serve (gateway : Gateway) (arrival : Arrival) : Serve Response := do
  let request := identify arrival.freshId arrival.request
  let response ← gateway.cors.apply (gateway.dispatch arrival.now arrival.network) request
  pure (Framing.finish request.method (listMethods request (returnId request response)))

/-- Answers one request with a routing table; the record is of this request alone. -/
def answer (gateway : Gateway) (routes : RouteTable) (arrival : Arrival) : Response × Traffic :=
  (gateway.serve arrival).run ⟨routes, {}⟩

def run (gateway : Gateway) (routes : RouteTable) : List Arrival → List (Response × Record)
  | [] => []
  | arrival :: rest =>
    let (response, traffic) := gateway.answer routes arrival
    (response, traffic.record) :: gateway.run traffic.routes rest

end Gateway

end ApiGateway
