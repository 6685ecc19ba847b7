import ApiGateway.Json.Printer
import ApiGateway.Logging
import ApiGateway.Main
import ApiGateway.Shutdown
import ApiGateway.Proofs.Auth.Acceptance
import ApiGateway.Proofs.Auth.Expiry
import ApiGateway.Proofs.Auth.Unsigned
import ApiGateway.Proofs.Config.Backends
import ApiGateway.Proofs.Config.Document
import ApiGateway.Proofs.Config.Environment
import ApiGateway.Proofs.Config.Report
import ApiGateway.Proofs.Config.Validation
import ApiGateway.Proofs.Config.Variable
import ApiGateway.Proofs.Except
import ApiGateway.Proofs.Gateway.Admission
import ApiGateway.Proofs.Gateway.Composition
import ApiGateway.Proofs.Gateway.Credentials
import ApiGateway.Proofs.Gateway.CrossOrigin
import ApiGateway.Proofs.Gateway.Identifier
import ApiGateway.Proofs.Gateway.Layers
import ApiGateway.Proofs.Gateway.Reach
import ApiGateway.Proofs.Gateway.Refusal
import ApiGateway.Proofs.Gateway.Rotation
import ApiGateway.Proofs.Gateway.Serving
import ApiGateway.Proofs.Http.Fields
import ApiGateway.Proofs.Http.HopByHop
import ApiGateway.Proofs.Http.Target
import ApiGateway.Proofs.Http.Value
import ApiGateway.Proofs.Net.Address
import ApiGateway.Proofs.Number.Binary64
import ApiGateway.Proofs.Outbound.Director
import ApiGateway.Proofs.Outbound.Exchange
import ApiGateway.Proofs.Outbound.Message
import ApiGateway.Proofs.Outbound.Query
import ApiGateway.Proofs.Route.Balance
import ApiGateway.Proofs.Route.Configured
import ApiGateway.Proofs.Route.Construction
import ApiGateway.Proofs.Route.Dispatch
import ApiGateway.Proofs.Route.Rotation
import ApiGateway.Proofs.Route.Seam
import ApiGateway.Proofs.Route.Table
import ApiGateway.Proofs.Shutdown
import ApiGateway.Proofs.Startup.Build
import ApiGateway.Proofs.Startup.Sources
import ApiGateway.Proofs.Startup.Stages
import ApiGateway.Proofs.Text.Cut
import ApiGateway.Proofs.Text.Split
import ApiGateway.Proofs.Url.Authority
import ApiGateway.Proofs.Url.Clean
import ApiGateway.Proofs.Url.Components
import ApiGateway.Proofs.Url.Containment
import ApiGateway.Proofs.Url.Given
import ApiGateway.Proofs.Url.Segments
