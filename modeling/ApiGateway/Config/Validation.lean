import ApiGateway.Config.Basic
import ApiGateway.Net.Address
import ApiGateway.Route.Instance
import ApiGateway.Text.Quoted

/-! # Validation

What can be wrong with a configuration that could be read. All problems are found, in the order of
the configuration.
-/

namespace ApiGateway

inductive ConfigProblem
  | invalidBindAddress (address : Text)
  | emptyServiceName
  | duplicateService (name : Text)
  | invalidServiceName (name : Text)
  | invalidBackend (service url : Text) (reason : InstanceError)
  | emptySecretPath
  | emptyAudience
  | zeroConnectTimeout
  | zeroRequestTimeout
  deriving DecidableEq, Repr

def ConfigProblem.message : ConfigProblem → Text
  | invalidBindAddress address => "invalid bind address '" ++ address ++ "'"
  | emptyServiceName => "service name must not be empty"
  | duplicateService name => "service '" ++ name ++ "' is defined more than once"
  | invalidServiceName name => "service name '" ++ name ++ "' must not contain '/'"
  | invalidBackend service url reason =>
    "invalid backend URL " ++ Text.quote url ++ " for service '" ++ service ++ "': " ++
      reason.message
  | emptySecretPath => "auth.secret_file must be set"
  | emptyAudience => "auth.audience must be set"
  | zeroConnectTimeout => "upstream.connect_timeout_secs must be greater than 0"
  | zeroRequestTimeout => "upstream.request_timeout_secs must be greater than 0 when set"

namespace Service

/-- The backends of a service that are no addresses. -/
def backendProblems (service : Service) : List ConfigProblem :=
  service.backends.filterMap fun url =>
    match Instance.ofText? url with
    | .ok _ => none
    | .error reason => some (.invalidBackend service.name url reason)

/-- The problems of a service, given the names before it. One without a name is not looked into. -/
def problems (earlier : List Text) (service : Service) : List ConfigProblem :=
  if service.name = [] then [.emptyServiceName]
  else
    (if '/' ∈ service.name then [.invalidServiceName service.name] else []) ++
      (if service.name ∈ earlier then [.duplicateService service.name] else []) ++
      service.backendProblems

def allProblems (earlier : List Text) : List Service → List ConfigProblem
  | [] => []
  | service :: rest =>
    service.problems earlier ++ allProblems (earlier ++ [service.name]) rest

end Service

namespace Config

def problems (config : Config) : List ConfigProblem :=
  (if (SocketAddress.ofText? config.listener.bindAddress).isSome then []
    else [.invalidBindAddress config.listener.bindAddress]) ++
    Service.allProblems [] config.services ++
    (if config.auth.secretFile = [] then [.emptySecretPath] else []) ++
    (if config.auth.audience = [] then [.emptyAudience] else []) ++
    (if config.outbound.connectTimeoutSecs = 0 then [.zeroConnectTimeout] else []) ++
    (if config.outbound.requestTimeoutSecs = some 0 then [.zeroRequestTimeout] else [])

def isValid (config : Config) : Bool := config.problems.isEmpty

def problemSummary (problems : List ConfigProblem) : Text :=
  "Validation failed: " ++ Text.join ", " (problems.map (·.message))

/-- Whether a client certificate is set without its key, or a key without its certificate. -/
def hasHalfIdentity (config : Config) : Bool :=
  config.outbound.clientCert.isSome != config.outbound.clientKey.isSome

end Config

end ApiGateway
