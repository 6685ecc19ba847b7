import ApiGateway.Config.Environment

/-! # Command line

The flags of the gateway's command line. Arguments are read from left to right, and the first one
that is wrong, or that asks for help or for the version, decides.
-/

namespace ApiGateway

structure Flags where
  config : Option Text := none
  bind : Option Text := none
  secretFile : Option Text := none
  logLevel : Option Text := none
  deriving DecidableEq, Repr

inductive Command
  | serve (flags : Flags)
  | help
  | version
  | misused
  deriving DecidableEq, Repr

namespace Flags

/-- A flag that takes a value. -/
inductive Setting
  | config
  | bind
  | secretFile
  | logLevel
  deriving DecidableEq, Repr

inductive Meaning
  | option (option : Setting)
  | help
  | version
  deriving DecidableEq, Repr

def longNames : List (Text × Meaning) :=
  [("config", .option .config), ("bind", .option .bind), ("secret-file", .option .secretFile),
    ("log-level", .option .logLevel), ("help", .help), ("version", .version)]

def shortNames : List (Char × Meaning) :=
  [('c', .option .config), ('b', .option .bind), ('l', .option .logLevel), ('h', .help),
    ('V', .version)]

def long? (name : Text) : Option Meaning := (longNames.find? (·.1 = name)).map (·.2)

def short? (name : Char) : Option Meaning := (shortNames.find? (·.1 = name)).map (·.2)

def path? (value : Text) : Option Text := if value = [] then none else some value

/-- Sets what is not set yet. -/
def set (flags : Flags) (option : Setting) (value : Text) : Option Flags :=
  match option with
  | .config =>
    if flags.config.isSome then none
    else (path? value).map fun v => { flags with config := some v }
  | .bind => if flags.bind.isSome then none else some { flags with bind := some value }
  | .secretFile =>
    if flags.secretFile.isSome then none
    else (path? value).map fun v => { flags with secretFile := some v }
  | .logLevel => if flags.logLevel.isSome then none else some { flags with logLevel := some value }

/-- An argument of its own that can be the value of the option before it: any that does not begin
with a dash, and the dash alone. -/
def isValue (argument : Text) : Bool := argument.head? ≠ some '-' || argument = ['-']

/-- The value that is attached to a short flag, with or without an equals sign. -/
def attached : Text → Text
  | '=' :: value => value
  | value => value

inductive Step
  | set (option : Setting) (value : Text)
  | takeNext (option : Setting)
  | finish (command : Command)
  | endOfFlags
  deriving DecidableEq, Repr

def step (argument : Text) : Step :=
  match argument with
  | ['-', '-'] => .endOfFlags
  | '-' :: '-' :: rest =>
    match Text.cutFirst '=' rest with
    | some (name, value) =>
      match long? name with
      | some (.option option) => .set option value
      | _ => .finish .misused
    | none =>
      match long? rest with
      | some (.option option) => .takeNext option
      | some .help => .finish .help
      | some .version => .finish .version
      | none => .finish .misused
  | '-' :: name :: rest =>
    match short? name with
    | some (.option option) => if rest = [] then .takeNext option else .set option (attached rest)
    | some .help => .finish .help
    | some .version => .finish .version
    | none => .finish .misused
  | _ => .finish .misused

/-- Reads arguments after those that have set some flags. -/
def read (flags : Flags) : List Text → Command
  | [] => .serve flags
  | argument :: rest =>
    match step argument, rest with
    | .finish command, _ => command
    | .endOfFlags, [] => .serve flags
    | .endOfFlags, _ :: _ => .misused
    | .set option value, rest =>
      match flags.set option value with
      | some flags => read flags rest
      | none => .misused
    | .takeNext _, [] => .misused
    | .takeNext option, value :: rest =>
      if isValue value then
        match flags.set option value with
        | some flags => read flags rest
        | none => .misused
      else .misused

/-- The variable that names the configuration file if no flag does. -/
def configKey : Text := "GATEWAY_CONFIG"

/-- Takes the name of the configuration file from the environment, if no flag gives it. -/
def withEnvironment (env : Environment) (flags : Flags) : Command :=
  match flags.config, env configKey with
  | none, some value =>
    match path? value with
    | some path => .serve { flags with config := some path }
    | none => .misused
  | _, _ => .serve flags

def apply (flags : Flags) (config : Config) : Config :=
  { config with
    listener.bindAddress := flags.bind.getD config.listener.bindAddress
    auth.secretFile := flags.secretFile.getD config.auth.secretFile
    observability.logLevel := flags.logLevel.getD config.observability.logLevel }

end Flags

def Command.ofArguments (arguments : List Text) (env : Environment) : Command :=
  match Flags.read {} arguments with
  | .serve flags => flags.withEnvironment env
  | command => command

end ApiGateway
