import ApiGateway.Auth.Token
import ApiGateway.Files
import ApiGateway.Text.Quoted

/-! # Verifying bearer tokens

A verifier holds the signing secret and the name of the audience. It either returns the claims of
an authorization text or tells why it refuses it; which of several reasons it gives is the order of
the checks.
-/

namespace ApiGateway

structure Verifier where
  secret : Bytes
  audience : Text
  deriving DecidableEq, Repr

/-- Why a request was refused. No client is told. -/
inductive Refusal
  | missingBearer
  | unsupportedAlgorithm (algorithm : Algorithm)
  | token (fault : TokenFault)
  | malformedClaims
  | missingAudience
  | unexpectedAudienceShape
  | audienceMismatch
  deriving DecidableEq, Repr

def Refusal.message : Refusal → Text
  | missingBearer => "authorization header missing 'Bearer ' prefix"
  | unsupportedAlgorithm algorithm => "unexpected signing method: " ++ algorithm.name
  | token fault => "invalid token: " ++ fault.message
  | malformedClaims => "claims are not a key/value mapping"
  | missingAudience => "missing 'aud' claim"
  | unexpectedAudienceShape => "unexpected type for 'aud' claim"
  | audienceMismatch => "audience does not include the gateway"

inductive SecretError
  | unreadable (path : Text) (cause : FileError)
  | empty (path : Text)
  deriving DecidableEq, Repr

def SecretError.message : SecretError → Text
  | unreadable path cause =>
    "failed to read signing secret " ++ Text.quotePath path ++ ": " ++ cause.message
  | empty path => "signing secret " ++ Text.quotePath path ++ " is empty"

namespace Verifier

def bearerScheme : Text := "Bearer "

def bearerToken (authorization : Option Text) : Except Refusal Text :=
  match authorization.bind fun s => bearerScheme.isPrefixOf? s with
  | some token => .ok token
  | none => .error .missingBearer

/-- The payload of a token that is signed with the secret and has not expired. -/
def payload (v : Verifier) (now : Nat) (token : Text) : Except Refusal Json :=
  match Token.ofText? token with
  | none => .error (.token .notThreeParts)
  | some token => do
    let algorithm ← token.algorithm.mapError .token
    match algorithm.hash? with
    | none => .error (.unsupportedAlgorithm algorithm)
    | some hash =>
      if token.signature ≠ token.signatureFor hash v.secret then
        .error (.token .signature)
      else
        let payload ← token.document.mapError .token
        if Token.hasExpired now payload then .error (.token .expired) else .ok payload

/-- The claims of a payload that is meant for the verifier's audience. -/
def accept (v : Verifier) (payload : Json) : Except Refusal Claims :=
  match payload with
  | .object claims =>
    match Json.Members.get? "aud" claims with
    | none => .error .missingAudience
    | some claim =>
      match Audience.ofClaim? claim with
      | none => .error .unexpectedAudienceShape
      | some audience =>
        if audience.contains v.audience then .ok claims else .error .audienceMismatch
  | _ => .error .malformedClaims

def verify (v : Verifier) (now : Nat) (authorization : Option Text) : Except Refusal Claims := do
  let token ← bearerToken authorization
  let payload ← v.payload now token
  v.accept payload

/-- The blanks around a secret in its file: space, tab, line feed, form feed, carriage return. -/
def isSecretBlank (b : UInt8) : Bool := [0x20, 0x09, 0x0A, 0x0C, 0x0D].contains b

def secretOf (content : Bytes) : Bytes :=
  ((content.dropWhile isSecretBlank).reverse.dropWhile isSecretBlank).reverse

def ofSecretFile (files : Files) (path audience : Text) : Except SecretError Verifier :=
  match files path with
  | .error cause => .error (.unreadable path cause)
  | .ok content =>
    match secretOf content with
    | [] => .error (.empty path)
    | secret => .ok { secret, audience }

/-- The verifier as it may be shown: without the secret. -/
def text (v : Verifier) : Text :=
  "AuthContext \x7b algorithms: [" ++ Text.join ", " (Algorithm.accepted.map (·.name)) ++
    "], audience: " ++ Text.quote v.audience ++ ", .. \x7d"

end Verifier

end ApiGateway
