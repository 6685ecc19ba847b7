import ApiGateway.Http.Field
import ApiGateway.Http.Message
import ApiGateway.Text.Blank

/-! # Cross-origin requests

A policy names at most one origin. Every `OPTIONS` request is answered here, without the handler
behind it; whatever the answer, a request from the named origin gets the grant on top.
-/

namespace ApiGateway

structure CorsPolicy where
  allowedOrigin : Option Text
  deriving DecidableEq, Repr

namespace CorsPolicy

def allows (policy : CorsPolicy) : Option Text → Bool
  | some origin => policy.allowedOrigin == some origin
  | none => false

/-- The first `Origin` value of a request, if the policy allows it. -/
def granted? (policy : CorsPolicy) (fs : Fields) : Option FieldValue :=
  (fs.first? .origin).filter fun value => policy.allows value.text?

def allowHeaders : FieldValue := .ofText "authorization, content-type"

def allowMethods : FieldValue := .ofText "GET,POST,PUT,PATCH,DELETE,OPTIONS"

def exposeHeaders : FieldValue := .ofText "content-type"

/-- A `Vary` value that covers the origin: it lists `Origin` in any case, or everything. -/
def coversOrigin (value : Text) : Bool :=
  (value.split ',').any fun element =>
    element.trim = ("*" : Text) || element.trim.equalIgnoringCase "origin"

/-- Lists `Origin` under `Vary` unless a readable value covers it already. -/
def varyByOrigin (fs : Fields) : Fields :=
  if (fs.readable .vary).any coversOrigin then fs else fs.append .vary (.ofText "Origin")

def grant (origin : FieldValue) (fs : Fields) : Fields :=
  ((((varyByOrigin (fs.set .accessControlAllowOrigin origin)).set
    .accessControlAllowCredentials (.ofText "true")).set
    .accessControlAllowHeaders allowHeaders).set
    .accessControlAllowMethods allowMethods).set
    .accessControlExposeHeaders exposeHeaders

/-- Adds the grant to an answer, if the request came from the allowed origin. -/
def mark (policy : CorsPolicy) (request : Request) (response : Response) : Response :=
  match policy.granted? request.fields with
  | some origin => { response with fields := grant origin response.fields }
  | none => response

def isPreflight (request : Request) : Bool := request.method = ("OPTIONS" : Text)

def apply {m : Type → Type} [Monad m] (policy : CorsPolicy) (handler : Request → m Response)
    (request : Request) : m Response := do
  let response ← if isPreflight request then pure .noContent else handler request
  pure (policy.mark request response)

end CorsPolicy

end ApiGateway
