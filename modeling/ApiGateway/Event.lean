import ApiGateway.Auth.Verifier
import ApiGateway.Route.Instance

/-! # Log events

What the gateway tells its operator: an event has a level, a fixed message and named fields.
-/

namespace ApiGateway

inductive Level
  | debug
  | info
  | warn
  deriving DecidableEq, Repr

inductive Event
  | loggingActive
  | halfIdentity (cert key : Option Text)
  | secretLoaded (path : Text) (length : Nat)
  | requestRefused (method target : Text) (reason : Refusal)
  | tokenAccepted (subject : Option Text)
  | serviceNotFound (requestId method path : Text)
  | noBackend (requestId service : Text)
  | routing (requestId method target service : Text) (chosen : Instance) (outboundTarget : Text)
  | poolEmpty (service : Text)
  | backendUnavailable (chosen : Instance) (method path cause : Text)
  | backendTimedOut (chosen : Instance) (method path : Text) (milliseconds : Nat)
  | nameUnreadable (path : Text)
  | trustSkipped (path : Text) (count : Nat)
  | trustLoaded (path : Text) (count : Nat)
  | clientIdentityEnabled (name : Option Text)
  deriving DecidableEq, Repr

namespace Event

def level : Event → Level
  | loggingActive => .debug
  | halfIdentity .. => .warn
  | secretLoaded .. => .info
  | requestRefused .. => .warn
  | tokenAccepted .. => .debug
  | serviceNotFound .. => .warn
  | noBackend .. => .warn
  | routing .. => .info
  | poolEmpty .. => .debug
  | backendUnavailable .. => .warn
  | backendTimedOut .. => .warn
  | nameUnreadable .. => .debug
  | trustSkipped .. => .warn
  | trustLoaded .. => .info
  | clientIdentityEnabled .. => .info

def message : Event → Text
  | loggingActive => "Logging already initialized"
  | halfIdentity .. => "Only one of client certificate / key configured; mutual TLS disabled"
  | secretLoaded .. => "Signing secret loaded"
  | requestRefused .. => "Rejected unauthenticated request"
  | tokenAccepted .. => "Token validated"
  | serviceNotFound .. => "service not found"
  | noBackend .. => "no backend available"
  | routing .. => "Routing request"
  | poolEmpty .. => "Pool has no instances"
  | backendUnavailable .. => "backend service unavailable"
  | backendTimedOut .. => "Upstream timed out"
  | nameUnreadable .. => "Could not read client certificate common name"
  | trustSkipped .. => "Skipped unusable CA certificates"
  | trustLoaded .. => "Service CA bundle loaded"
  | clientIdentityEnabled .. => "Upstream mutual TLS enabled"

/-- The fields with their names. Paths are quoted, and what may be absent shows whether it is. -/
def fields : Event → List (String × Text)
  | loggingActive => []
  | halfIdentity cert key =>
    [("client_cert", Text.optional Text.quotePath cert),
      ("client_key", Text.optional Text.quotePath key)]
  | secretLoaded path length => [("path", Text.quotePath path), ("secret_len", Text.ofNat length)]
  | requestRefused method target reason =>
    [("method", method), ("uri", target), ("reason", reason.message)]
  | tokenAccepted subject => [("subject", Text.optional Text.quote subject)]
  | serviceNotFound requestId method path =>
    [("request_id", requestId), ("method", method), ("path", path)]
  | noBackend requestId service => [("request_id", requestId), ("service", service)]
  | routing requestId method target service chosen outboundTarget =>
    [("request_id", requestId), ("method", method), ("uri", target), ("service", service),
      ("backend", chosen.text), ("upstream", outboundTarget)]
  | poolEmpty service => [("service", service)]
  | backendUnavailable chosen method path cause =>
    [("backend", chosen.text), ("method", method), ("path", path), ("error", cause)]
  | backendTimedOut chosen method path milliseconds =>
    [("backend", chosen.text), ("method", method), ("path", path),
      ("timeout_ms", Text.ofNat milliseconds)]
  | nameUnreadable path => [("path", Text.quotePath path)]
  | trustSkipped path count => [("path", Text.quotePath path), ("ignored", Text.ofNat count)]
  | trustLoaded path count => [("path", Text.quotePath path), ("certificates", Text.ofNat count)]
  | clientIdentityEnabled name => [("client_cn", name.getD [])]

end Event

end ApiGateway
