import ApiGateway.Config.Basic
import ApiGateway.Text.Blank
import ApiGateway.Unicode.UpperCase

/-! # Environment variables

The backends of each service and the paths of the TLS files can be set by environment variables. A
blank variable counts as unset.
-/

namespace ApiGateway

abbrev Environment := Text → Option Text

namespace Environment

/-- The value of a variable, unless it is blank. -/
def nonBlank? (env : Environment) (key : Text) : Option Text :=
  (env key).filter fun value => value.trim ≠ []

def trimmed? (env : Environment) (key : Text) : Option Text :=
  (env.nonBlank? key).map Text.trim

end Environment

namespace Config

def clientCertKey : Text := "MTLS_CLIENT_CERT"

def clientKeyKey : Text := "MTLS_CLIENT_KEY"

def serviceCaKey : Text := "MTLS_SERVICE_CA"

/-- The entries between the commas, without blanks around them and slashes at their end. Blank
entries do not count. -/
def backendList (raw : Text) : List Text :=
  (((raw.split ',').map Text.trim).filter (· ≠ [])).map (Text.trimEnd (· = '/'))

end Config

/-- The variable that sets the backends of a service: its name in upper case with underscores. -/
def Service.envKey (service : Service) : Text :=
  ((service.name.flatMap Unicode.upperChar).map fun c => if c = '-' then '_' else c) ++ "_BACKENDS"

/-- The variables that can change a configuration. -/
def Config.variables (config : Config) : List Text :=
  config.services.map Service.envKey ++ [clientCertKey, clientKeyKey, serviceCaKey]

def Service.withEnvironment (env : Environment) (service : Service) : Service :=
  match env.nonBlank? service.envKey with
  | some raw => { service with backends := Config.backendList raw }
  | none => service

def OutboundSettings.withEnvironment (env : Environment) (settings : OutboundSettings) :
    OutboundSettings :=
  { settings with
    clientCert := (env.trimmed? Config.clientCertKey).or settings.clientCert
    clientKey := (env.trimmed? Config.clientKeyKey).or settings.clientKey
    serviceCa := (env.trimmed? Config.serviceCaKey).or settings.serviceCa }

def Config.withEnvironment (env : Environment) (config : Config) : Config :=
  { config with
    services := config.services.map (Service.withEnvironment env)
    outbound := config.outbound.withEnvironment env }

end ApiGateway
