import ApiGateway.Text

/-! # Header fields

A field name is a token in lower case, a value is a byte string, and a header section is the list
of its lines. What can be observed of a section is the list of values under each name, in order.
-/

namespace ApiGateway

/-- A field name in its canonical lower-case spelling. -/
structure FieldName where
  text : Text
  deriving DecidableEq, Repr

abbrev FieldValue := Bytes

abbrev Fields := List (FieldName × FieldValue)

namespace FieldName

def isTokenChar (c : Char) : Bool :=
  c.isAlphanum || "!#$%&'*+-.^_\x60|~".toList.contains c

def maxLength : Nat := 65535

/-- Reads a field name in any letter case. -/
def ofText? (s : Text) : Option FieldName :=
  if s ≠ [] ∧ s.all isTokenChar ∧ s.length ≤ maxLength then some ⟨Text.lower s⟩ else none

def accessControlAllowCredentials : FieldName := ⟨"access-control-allow-credentials"⟩
def accessControlAllowHeaders : FieldName := ⟨"access-control-allow-headers"⟩
def accessControlAllowMethods : FieldName := ⟨"access-control-allow-methods"⟩
def accessControlAllowOrigin : FieldName := ⟨"access-control-allow-origin"⟩
def accessControlExposeHeaders : FieldName := ⟨"access-control-expose-headers"⟩
def accept : FieldName := ⟨"accept"⟩
def allow : FieldName := ⟨"allow"⟩
def authorization : FieldName := ⟨"authorization"⟩
def connection : FieldName := ⟨"connection"⟩
def contentLength : FieldName := ⟨"content-length"⟩
def contentType : FieldName := ⟨"content-type"⟩
def host : FieldName := ⟨"host"⟩
def keepAlive : FieldName := ⟨"keep-alive"⟩
def origin : FieldName := ⟨"origin"⟩
def proxyAuthenticate : FieldName := ⟨"proxy-authenticate"⟩
def proxyAuthorization : FieldName := ⟨"proxy-authorization"⟩
def proxyConnection : FieldName := ⟨"proxy-connection"⟩
def te : FieldName := ⟨"te"⟩
def trailers : FieldName := ⟨"trailers"⟩
def transferEncoding : FieldName := ⟨"transfer-encoding"⟩
def upgrade : FieldName := ⟨"upgrade"⟩
def vary : FieldName := ⟨"vary"⟩
def wwwAuthenticate : FieldName := ⟨"www-authenticate"⟩
def xForwardedFor : FieldName := ⟨"x-forwarded-for"⟩
def xForwardedHost : FieldName := ⟨"x-forwarded-host"⟩
def xForwardedProto : FieldName := ⟨"x-forwarded-proto"⟩
def xRequestId : FieldName := ⟨"x-request-id"⟩

end FieldName

namespace FieldValue

/-- Visible ASCII, the space and the tab. -/
def isReadable (b : UInt8) : Bool := (0x20 ≤ b && b < 0x7F) || b == 0x09

/-- What a field value may hold: anything but control characters other than the tab. -/
def isLegal (b : UInt8) : Bool := (0x20 ≤ b && b != 0x7F) || b == 0x09

def text? (v : FieldValue) : Option Text :=
  if v.all isReadable then some (Bytes.latin1 v) else none

/-- The value with these characters; only meant for ASCII text. -/
def ofText (s : Text) : FieldValue := Bytes.ofLatin1 s

end FieldValue

namespace Fields

def values (n : FieldName) (fs : Fields) : List FieldValue :=
  (fs.filter (·.1 = n)).map (·.2)

def first? (n : FieldName) (fs : Fields) : Option FieldValue := (fs.values n).head?

def contains (n : FieldName) (fs : Fields) : Bool := fs.any (·.1 = n)

def erase (n : FieldName) (fs : Fields) : Fields := fs.filter (·.1 ≠ n)

def append (n : FieldName) (v : FieldValue) (fs : Fields) : Fields := fs ++ [(n, v)]

/-- Replaces all values under a name by one. -/
def set (n : FieldName) (v : FieldValue) (fs : Fields) : Fields := (fs.erase n).append n v

def readable (n : FieldName) (fs : Fields) : List Text := (fs.values n).filterMap FieldValue.text?

end Fields

end ApiGateway
