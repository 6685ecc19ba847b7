import ApiGateway.Startup

/-! # The command

Reads the command line, the environment and the files that they name, and prepares the gateway up to
the point where it would bind its address. What prevents that is told on standard error, and by the
exit code.
-/

namespace ApiGateway.CommandLine

/-- The number of an error, which some calls give with a minus sign. -/
def errorNumber (code : UInt32) : Nat := min code.toNat (0 - code).toNat

def fileError : IO.Error → FileError
  | .noFileOrDirectory .. => .notFound
  | .permissionDenied .. => .denied
  | .inappropriateType _ code _ => if errorNumber code = 20 then .notDirectory else .isDirectory
  | cause => .other cause.toString

def readFile (path : Text) : IO (Text × Except FileError Bytes) := do
  match ← (IO.FS.readBinFile (String.ofList path)).toBaseIO with
  | .ok content => return (path, .ok content.toList)
  | .error cause => return (path, .error (fileError cause))

def environment (keys : List Text) : IO Environment := do
  let values ← keys.mapM fun key => IO.getEnv (String.ofList key)
  return fun key => ((keys.zip values).find? (·.1 = key)).bind fun (_, value) => value.map (↑·)

/-- Prepares a gateway from what the disk and the environment hold. The configuration file comes
first, because it decides which variables and which files matter. -/
def prepare (flags : Flags) : IO (Except StartupError Server) := do
  let first ← flags.config.toList.mapM readFile
  match Config.load (.ofReadings first) flags.config with
  | .error fault => return .error (.config fault)
  | .ok config =>
    let env ← environment config.variables
    let named ← (flags.apply (config.withEnvironment env)).files.mapM readFile
    return Server.prepare (.ofReadings (first ++ named)) env flags

def usage : String :=
  "Usage: edge-gateway [-c|--config FILE] [-b|--bind ADDRESS] [--secret-file FILE] " ++
    "[-l|--log-level LEVEL]"

def version : String := "edge-gateway 0.1.0"

def run (command : Command) : IO UInt32 := do
  match command with
  | .help =>
    IO.println usage
    return 0
  | .version =>
    IO.println version
    return 0
  | .misused =>
    IO.eprintln usage
    return 2
  | .serve flags =>
    match ← prepare flags with
    | .ok server =>
      IO.println ("edge-gateway: ready to listen on " ++ String.ofList server.bindAddress)
      return 0
    | .error cause =>
      IO.eprintln ("edge-gateway: " ++ String.ofList (cause.message?.getD "unusable TLS files"))
      return 1

end ApiGateway.CommandLine

def main (arguments : List String) : IO UInt32 := do
  let env ← ApiGateway.CommandLine.environment [ApiGateway.Flags.configKey]
  ApiGateway.CommandLine.run (.ofArguments (arguments.map String.toList) env)
