import ApiGateway.Outbound.Director
import ApiGateway.Text.Base64

/-! # Outbound requests

What an instance is sent: the directed header section with what the client side of a connection
adds of its own, and the body in a framing that the instance can read.
-/

namespace ApiGateway

structure Outbound where
  chosen : Instance
  method : Text
  url : Url
  fields : Fields
  body : Bytes
  deriving DecidableEq, Repr

namespace Outbound

/-- Anything will do as an answer, unless the request says otherwise. -/
def withAccept (fs : Fields) : Fields :=
  if fs.contains .accept then fs else fs.append .accept (.ofText "*/*")

def credentials? (url : Url) : Option FieldValue := do
  let user ← Text.ofUtf8? (Url.percentDecode (Text.utf8 url.user))
  let password := (Text.ofUtf8? (Url.percentDecode (Text.utf8 url.password))).getD []
  if user = [] ∧ password = [] then none
  else some (.ofText ("Basic " ++ Base64.standard.encode (Text.utf8 (user ++ ':' :: password))))

/-- A request without an authorization of its own is given the credentials in the URL. -/
def withCredentials (url : Url) (fs : Fields) : Fields :=
  match credentials? url with
  | some value => if fs.contains .authorization then fs else fs.append .authorization value
  | none => fs

/-- Requests of these methods carry no body unless its length is announced. -/
def isBodiless (method : Text) : Bool := method = ("GET" : Text) || method = ("HEAD" : Text)

/-- The bytes of a body, as far as it goes. -/
def bytesOf : Body → Bytes
  | .sized content => content
  | .streamed content _ => content

def framed (method : Text) (body : Body) (fs : Fields) : Fields × Bytes :=
  if fs.contains .contentLength then (fs, bytesOf body)
  else if body.size? = some 0 ∨ isBodiless method then (fs, [])
  else (fs.append .transferEncoding (.ofText "chunked"), bytesOf body)

/-- The URL without user information and fragment, which stay at the gateway. -/
def bareUrl (url : Url) : Url := { url with user := [], password := [], fragment := none }

def ofRequest (chosen : Instance) (path : Text) (request : Request) : Outbound :=
  let url := chosen.urlFor path request.target.query
  let fs := withCredentials url (withAccept (Director.direct chosen request))
  let (fs, body) := framed request.method request.body fs
  { chosen, method := request.method, url := bareUrl url, fields := fs, body }

end Outbound

end ApiGateway
