import ApiGateway.Http.Field
import ApiGateway.Http.Target
import ApiGateway.Net.Address

/-! # Requests and responses

The two messages that the gateway handles, and the responses that it makes itself.
-/

namespace ApiGateway

/-- A body: its length is known before it is read, or it is a stream. A stream may break off
before its end. -/
inductive Body
  | sized (content : Bytes)
  | streamed (content : Bytes) (complete : Bool)
  deriving DecidableEq, Repr

namespace Body

def empty : Body := sized []

def size? : Body → Option Nat
  | sized content => some content.length
  | streamed .. => none

/-- All of the body, if it does not break off. -/
def content? : Body → Option Bytes
  | sized content => some content
  | streamed content complete => if complete then some content else none

end Body

structure Request where
  method : Text := "GET"
  target : Target
  fields : Fields := []
  body : Body := .empty
  /-- The address of the client, if the listener knows it. -/
  client : Option IpAddress := none
  deriving DecidableEq, Repr

structure Response where
  status : Nat
  fields : Fields := []
  body : Body := .empty
  deriving DecidableEq, Repr

/-- The identifier of a request; it is unknown unless the first value is readable. -/
def Request.id (request : Request) : Text :=
  ((request.fields.first? .xRequestId).bind FieldValue.text?).getD "unknown"

namespace Response

def plainText : FieldValue := .ofText "text/plain; charset=utf-8"

def phrase (status : Nat) (text : Text) : Response :=
  { status, fields := [(.contentType, plainText)], body := .sized (Text.utf8 text) }

/-- The first segment of the path names no service. -/
def serviceNotFound : Response := phrase 404 "service not found"

/-- The service has no instances. -/
def noBackend : Response := phrase 503 "no backend available"

/-- The exchange with the instance failed. -/
def badGateway : Response := phrase 502 "backend service unavailable"

/-- The instance did not answer in time. -/
def gatewayTimeout : Response := phrase 504 "upstream timed out"

/-- The request carries no acceptable token. Nothing tells why. -/
def unauthorized : Response :=
  { phrase 401 "unauthorized" with
    fields := [(.contentType, plainText), (.wwwAuthenticate, .ofText "Bearer")] }

def noContent : Response := { status := 204 }

end Response

end ApiGateway
