import ApiGateway.Auth.Claims
import ApiGateway.Auth.TokenHeader
import ApiGateway.Text.Base64

/-! # Tokens

A token is a text of three parts between points: a header and a payload, both JSON in base64, and
a signature over the two.
-/

namespace ApiGateway

structure Token where
  header : Text
  payload : Text
  signature : Text
  deriving DecidableEq, Repr

/-- Why a text is no valid token. -/
inductive TokenFault
  | notThreeParts
  | signature
  | expired
  | json
  | base64
  deriving DecidableEq, Repr

def TokenFault.message : TokenFault → Text
  | notThreeParts => "InvalidToken"
  | signature => "InvalidSignature"
  | expired => "ExpiredSignature"
  | json => "JSON error"
  | base64 => "Base64 error"

namespace Token

/-- Cuts a token at its last two points. -/
def ofText? (s : Text) : Option Token := do
  let (signed, signature) ← Text.cutLast '.' s
  let (header, payload) ← Text.cutLast '.' signed
  some { header, payload, signature }

/-- The text that the signature covers. -/
def signed (t : Token) : Text := t.header ++ '.' :: t.payload

def algorithm (t : Token) : Except TokenFault Algorithm :=
  match Base64.url.decode? t.header with
  | none => .error .base64
  | some bytes =>
    match (Json.Raw.ofBytes? bytes).bind TokenHeader.algorithm? with
    | none => .error .json
    | some algorithm => .ok algorithm

/-- The one signature that is right for the token's first two parts. -/
def signatureFor (t : Token) (hash : HashFunction) (secret : Bytes) : Text :=
  Base64.url.encode (hash.hmac secret (Text.utf8 t.signed))

/-- The payload as a document whose registered claims can be read. -/
def document (t : Token) : Except TokenFault Json :=
  match Base64.url.decode? t.payload with
  | none => .error .base64
  | some bytes =>
    match Json.Raw.ofBytes? bytes with
    | none => .error .json
    | some raw =>
      match raw.value? Json.Raw.maxDepth with
      | none => .error .json
      | some value => if Payload.isReadable raw then .ok value else .error .json

def hasExpired (now : Nat) (payload : Json) : Bool := (Payload.expiry? payload).any (· < now)

end Token

end ApiGateway
