import ApiGateway.Config.Flags
import ApiGateway.Config.Reader
import ApiGateway.Config.Validation
import ApiGateway.Gateway
import ApiGateway.Tls.Basic

/-! # Startup

Before the gateway listens, everything that it needs is built, stage by stage: the configuration is
loaded and validated, then come the signing secret, the routing table and the TLS settings. The
first stage that fails decides.
-/

namespace ApiGateway

inductive StartupError
  | config (fault : ConfigFault)
  | invalid (problems : List ConfigProblem)
  | secret (cause : SecretError)
  | routes (cause : RouteTableError)
  | tls (cause : TlsError)
  deriving Repr

namespace StartupError

/-- The wording of an error, where it does not depend on the details of a fault in a file. -/
def message? : StartupError → Option Text
  | config fault => some ("configuration: " ++ fault.message)
  | invalid problems => some ("configuration: " ++ Config.problemSummary problems)
  | secret cause => some ("token verification: " ++ cause.message)
  | routes cause => some ("routing table: " ++ cause.message)
  | tls cause => cause.message?.map fun m => "upstream transport: " ++ m

end StartupError

structure Server where
  bindAddress : Text
  gateway : Gateway
  routes : RouteTable
  tls : Option TlsSettings
  deriving DecidableEq, Repr

namespace Server

def build (files : Files) (config : Config) : Except StartupError Server := do
  let verifier ← (Verifier.ofSecretFile files config.auth.secretFile config.auth.audience).mapError
    .secret
  let routes ← (RouteTable.ofServices? config.services).mapError .routes
  let (tls, _) ← (TlsSettings.load files config.outbound).mapError .tls
  .ok {
    bindAddress := config.listener.bindAddress
    gateway := {
      verifier
      cors := ⟨config.cors.allowedOrigin⟩
      limit := config.outbound.requestTimeoutSecs.map (· * 1000) }
    routes
    tls }

/-- The configuration from a file or the defaults, under what the environment and the flags set. -/
def configure (files : Files) (env : Environment) (flags : Flags) : Except StartupError Config := do
  let config ← (Config.load files flags.config).mapError .config
  .ok (flags.apply (config.withEnvironment env))

def validate (config : Config) : Except StartupError Config :=
  match config.problems with
  | [] => .ok config
  | problems => .error (.invalid problems)

/-- Everything up to the point where the gateway binds its address. -/
def prepare (files : Files) (env : Environment) (flags : Flags) : Except StartupError Server := do
  build files (← validate (← configure files env flags))

end Server

end ApiGateway
