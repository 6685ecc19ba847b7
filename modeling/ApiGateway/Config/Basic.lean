import ApiGateway.Text

/-! # Configuration

What an operator can set, with the defaults for what is left out.
-/

namespace ApiGateway

structure Listener where
  bindAddress : Text := "0.0.0.0:8080"
  deriving DecidableEq, Repr

/-- A service: the name is the first path segment of its requests, the backends are the addresses
of its instances. -/
structure Service where
  name : Text
  backends : List Text := []
  deriving DecidableEq, Repr

structure AuthSettings where
  secretFile : Text := "/secrets/jwt/secret.key"
  audience : Text := "gateway_api"
  deriving DecidableEq, Repr

structure CorsSettings where
  allowedOrigin : Option Text := some "http://localhost:5106"
  deriving DecidableEq, Repr

/-- How instances are spoken to. Certificate and key are used only together. -/
structure OutboundSettings where
  clientCert : Option Text := none
  clientKey : Option Text := none
  serviceCa : Option Text := none
  connectTimeoutSecs : Nat := 5
  tcpKeepaliveSecs : Nat := 30
  poolMaxIdlePerHost : Nat := 200
  poolIdleTimeoutSecs : Nat := 90
  requestTimeoutSecs : Option Nat := none
  useEnvProxy : Bool := true
  deriving DecidableEq, Repr

structure Observability where
  logLevel : Text := "info"
  deriving DecidableEq, Repr

/-- The filter under which the gateway and its HTTP layer log from a level on. -/
def Observability.filter (level : Text) : Text :=
  "edge_gateway=" ++ level ++ ",tower_http=" ++ level

structure Config where
  listener : Listener := {}
  services : List Service :=
    [⟨"catalog", ["https://catalog:8000"]⟩, ⟨"orders", ["https://orders:8001"]⟩]
  auth : AuthSettings := {}
  cors : CorsSettings := {}
  outbound : OutboundSettings := {}
  observability : Observability := {}
  deriving DecidableEq, Repr

namespace Config

def service? (config : Config) (name : Text) : Option Service :=
  config.services.find? (·.name = name)

def files (config : Config) : List Text :=
  let settings := config.outbound
  config.auth.secretFile ::
    [settings.clientCert, settings.clientKey, settings.serviceCa].filterMap id

end Config

/-- Certificate and key, if both are set. -/
def OutboundSettings.clientIdentity? (settings : OutboundSettings) : Option (Text × Text) :=
  match settings.clientCert, settings.clientKey with
  | some cert, some key => some (cert, key)
  | _, _ => none

end ApiGateway
