import ApiGateway.Http.HopByHop
import ApiGateway.Http.Message
import ApiGateway.Route.Instance

/-! # Directing a request

The header section that leaves the gateway: addressed to the chosen instance, without what concerns
only the connection to the client, and with a record of where the request came from.
-/

namespace ApiGateway.Director

/-- The host that the client asked for: its first `Host` value, or else the authority in the
request target. -/
def askedHost? (request : Request) : Option FieldValue :=
  (request.fields.first? .host).or (request.target.authority.map FieldValue.ofText)

def recordHost (request : Request) (fs : Fields) : Fields :=
  match askedHost? request with
  | some host => fs.set .xForwardedHost host
  | none => fs

/-- What the client reports about its protocol stays; without a report it was plain. -/
def recordScheme (fs : Fields) : Fields :=
  if fs.contains .xForwardedProto then fs else fs.append .xForwardedProto (.ofText "http")

/-- The addresses that a request has passed, with its client as the last. -/
def forwardedChain (earlier : List Text) (client : Text) : Text :=
  Text.join ", " (earlier ++ [client])

def recordClient (request : Request) (fs : Fields) : Fields :=
  match request.client with
  | some ip =>
    fs.set .xForwardedFor (.ofText (forwardedChain (fs.readable .xForwardedFor) ip.text))
  | none => fs

def direct (chosen : Instance) (request : Request) : Fields :=
  let fs := HopByHop.strip request.fields
  let fs := recordClient request (recordScheme (recordHost request fs))
  fs.set .host (.ofText chosen.authority)

end ApiGateway.Director
