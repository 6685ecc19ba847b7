import ApiGateway.Proofs.Config.Environment
import ApiGateway.Proofs.Startup.Build

/-! # Where a configuration comes from

The flags go before the environment or the file, and those before the defaults.
Which source a field is taken from depends on that field alone. What is
validated and served is the configuration under all of them, and its environment
has no more to change in it.
-/

namespace ApiGateway

namespace Service

variable {env : Environment} {before after : Service}

end Service

namespace Config

variable {env : Environment} {flags : Flags} {base config : Config}

end Config

namespace Server

end Server

end ApiGateway
