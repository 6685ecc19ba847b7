import ApiGateway.Config.Basic
import ApiGateway.Files
import ApiGateway.Text.Quoted
import ApiGateway.Toml.Syntax

/-! # Reading a configuration

A configuration is a TOML document. What it leaves out keeps its default, and what it says besides
is skipped. A section may be given as an array of its values in order.
-/

namespace ApiGateway

inductive ValueFault
  | wrongType (found : Toml) (expected : Text)
  | negative (found : Int) (expected : Text)
  | missing (field : Text)
  | tooShort (expected : Text)
  deriving Repr

namespace ValueFault

/-- A value as an error message describes it. -/
def describe : Toml → Text
  | .string s => "string " ++ Text.quote s
  | .integer n => "integer `" ++ (toString n).toList ++ "`"
  | .real x => "floating point `" ++ x.text ++ "`"
  | .bool b => "boolean `" ++ (if b then "true" else "false" : Text) ++ "`"
  | .array _ => "sequence"
  | .datetime => "map"
  | .table _ => "map"

def message : ValueFault → Text
  | wrongType found expected => "invalid type: " ++ describe found ++ ", expected " ++ expected
  | negative found expected =>
    "invalid value: integer `" ++ (toString found).toList ++ "`, expected " ++ expected
  | missing field => "missing field `" ++ field ++ "`"
  | tooShort expected => "invalid length 0, expected " ++ expected

end ValueFault

namespace Config.Reader

abbrev Result := Except ValueFault

/-- How the value of one field changes the section that it belongs to. -/
abbrev Setter (α : Type) := Toml → α → Result α

def textAs (expected : Text) : Toml → Result Text
  | .string s => .ok s
  | v => .error (.wrongType v expected)

def text : Toml → Result Text := textAs "a string"

def path : Toml → Result Text := textAs "path string"

def natAs (expected : Text) : Toml → Result Nat
  | .integer (.ofNat n) => .ok n
  | .integer n => .error (.negative n expected)
  | v => .error (.wrongType v expected)

def count : Toml → Result Nat := natAs "u64"

def size : Toml → Result Nat := natAs "usize"

def bool : Toml → Result Bool
  | .bool b => .ok b
  | v => .error (.wrongType v "a boolean")

def list {α : Type} (item : Toml → Result α) : Toml → Result (List α)
  | .array items => items.mapM item
  | v => .error (.wrongType v "a sequence")

/-- A section: each value that belongs to a field is read, in the order of the document. A date
stands for a section in which no field is known. -/
def fields {α : Type} (name : Text) (setters : List (Text × Setter α)) (start : α) :
    Toml → Result α
  | .table entries =>
    entries.foldlM (fun a (key, value) =>
      match setters.find? (·.1 = key) with
      | some (_, set) => set value a
      | none => .ok a) start
  | .datetime => .ok start
  | .array items => (items.zip setters).foldlM (fun a (value, _, set) => set value a) start
  | v => .error (.wrongType v ("struct " ++ name))

def listener : Toml → Result Listener :=
  fields "ListenerConfig"
    [("bind_address", fun v s => do pure { s with bindAddress := ← text v })] {}

/-- A service before its name is known. -/
structure NamelessService where
  name : Option Text := none
  backends : List Text := []

def serviceFields : Toml → Result NamelessService :=
  fields "ServiceConfig"
    [("name", fun v s => do pure { s with name := some (← text v) }),
      ("backends", fun v s => do pure { s with backends := ← list text v })] {}

def service (v : Toml) : Result Service := do
  let s ← serviceFields v
  match s.name, v with
  | some name, _ => .ok { name, backends := s.backends }
  | none, .array _ => .error (.tooShort "struct ServiceConfig with 2 elements")
  | none, _ => .error (.missing "name")

def auth : Toml → Result AuthSettings :=
  fields "AuthConfig"
    [("secret_file", fun v s => do pure { s with secretFile := ← path v }),
      ("audience", fun v s => do pure { s with audience := ← text v })] {}

def cors : Toml → Result CorsSettings :=
  fields "CorsConfig"
    [("allowed_origin", fun v s => do pure { s with allowedOrigin := some (← text v) })] {}

def outbound : Toml → Result OutboundSettings :=
  fields "UpstreamConfig"
    [("client_cert", fun v s => do pure { s with clientCert := some (← path v) }),
      ("client_key", fun v s => do pure { s with clientKey := some (← path v) }),
      ("service_ca", fun v s => do pure { s with serviceCa := some (← path v) }),
      ("connect_timeout_secs", fun v s => do pure { s with connectTimeoutSecs := ← count v }),
      ("tcp_keepalive_secs", fun v s => do pure { s with tcpKeepaliveSecs := ← count v }),
      ("pool_max_idle_per_host", fun v s => do pure { s with poolMaxIdlePerHost := ← size v }),
      ("pool_idle_timeout_secs", fun v s => do pure { s with poolIdleTimeoutSecs := ← count v }),
      ("request_timeout_secs",
        fun v s => do pure { s with requestTimeoutSecs := some (← count v) }),
      ("use_env_proxy", fun v s => do pure { s with useEnvProxy := ← bool v })] {}

def observability : Toml → Result Observability :=
  fields "ObservabilityConfig"
    [("log_level", fun v s => do pure { s with logLevel := ← text v })] {}

def config : Toml → Result Config :=
  fields "GatewayConfig"
    [("listener", fun v s => do pure { s with listener := ← listener v }),
      ("services", fun v s => do pure { s with services := ← list service v }),
      ("auth", fun v s => do pure { s with auth := ← auth v }),
      ("cors", fun v s => do pure { s with cors := ← cors v }),
      ("upstream", fun v s => do pure { s with outbound := ← outbound v }),
      ("observability", fun v s => do pure { s with observability := ← observability v })] {}

end Config.Reader

inductive ConfigFault
  | unreadable (cause : FileError)
  | notText
  | notToml
  | value (fault : ValueFault)
  deriving Repr

def ConfigFault.message : ConfigFault → Text
  | unreadable cause => "IO error: " ++ cause.message
  | notText => "IO error: stream did not contain valid UTF-8"
  | notToml => "Parse error"
  | value _ => "Parse error"

namespace Config

def ofText? (s : Text) : Except ConfigFault Config :=
  match Toml.ofText? s with
  | none => .error .notToml
  | some entries => (Reader.config (.table entries)).mapError .value

/-- Reads the configuration in a file; without a file it is the default one. -/
def load (files : Files) (path : Option Text) : Except ConfigFault Config :=
  match path with
  | none => .ok {}
  | some path =>
    match files path with
    | .error cause => .error (.unreadable cause)
    | .ok content =>
      match Text.ofUtf8? content with
      | none => .error .notText
      | some s => ofText? s

end Config

end ApiGateway
