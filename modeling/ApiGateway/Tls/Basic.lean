import ApiGateway.Config.Basic
import ApiGateway.Event
import ApiGateway.Tls.Certificate
import ApiGateway.Tls.CommonName
import ApiGateway.Tls.PrivateKey

/-! # TLS towards instances

The gateway can present a certificate of its own, and can trust other certificates than the
well-known ones. Whatever is configured must load; without anything configured there are no
settings.
-/

namespace ApiGateway

inductive TlsError
  | unreadable (path : Text) (cause : FileError)
  | malformed (path : Text)
  | noCertificates (path : Text)
  | noPrivateKey (path : Text)
  | identity
  deriving DecidableEq, Repr

/-- The wording of an error, where it does not depend on the details of a fault in a file. -/
def TlsError.message? : TlsError → Option Text
  | unreadable path cause =>
    some ("failed to read " ++ Text.quotePath path ++ ": " ++ cause.message)
  | malformed _ => none
  | noCertificates path => some (Text.quotePath path ++ " contained no certificates")
  | noPrivateKey path => some (Text.quotePath path ++ " contained no private key")
  | identity => none

structure ClientIdentity where
  chain : List Bytes
  key : Pem.Section
  commonName : Option Text
  deriving DecidableEq, Repr

/-- Without anchors, servers are checked against the well-known authorities. -/
structure TlsSettings where
  identity : Option ClientIdentity
  anchors : Option (List Bytes)
  protocols : List Text
  deriving DecidableEq, Repr

namespace Tls

/-- Pooled connections speak nothing else. -/
def applicationProtocols : List Text := ["http/1.1"]

def readFile (files : Files) (path : Text) : Except TlsError Bytes :=
  (files path).mapError (.unreadable path)

def readCertificates (files : Files) (path : Text) : Except TlsError (List Bytes) := do
  match Pem.certificates? (← readFile files path) with
  | some certificates => .ok certificates
  | none => .error (.malformed path)

def readPrivateKey (files : Files) (path : Text) : Except TlsError Pem.Section := do
  match Pem.privateKey? (← readFile files path) with
  | none => .error (.malformed path)
  | some none => .error (.noPrivateKey path)
  | some (some key) => .ok key

end Tls

namespace ClientIdentity

def load (files : Files) (certPath keyPath : Text) : Except TlsError ClientIdentity := do
  match ← Tls.readCertificates files certPath with
  | [] => .error (.noCertificates certPath)
  | leaf :: rest =>
    let key ← Tls.readPrivateKey files keyPath
    .ok { chain := leaf :: rest, key, commonName := CommonName.ofCertificate? leaf }

def events (identity : ClientIdentity) (certPath : Text) : List Event :=
  if identity.commonName.isSome then [] else [.nameUnreadable certPath]

/-- Whether the key is usable and belongs to the first certificate. -/
def keyMatches (identity : ClientIdentity) : Bool :=
  match identity.chain.head?.bind Certificate.ofDer?, PrivateKey.publicKey? identity.key with
  | some certificate, some publicKey => certificate.subjectKey == publicKey
  | _, _ => false

end ClientIdentity

namespace Tls

/-- Loads the usable trust anchors of a file, of which there must be one. Besides them it tells how
many certificates are not usable. -/
def loadAnchors (files : Files) (path : Text) : Except TlsError (List Bytes × Nat) := do
  let certificates ← readCertificates files path
  match certificates.filter Certificate.isAnchor with
  | [] => .error (.noCertificates path)
  | anchors => .ok (anchors, certificates.length - anchors.length)

def anchorEvents (path : Text) (anchors : List Bytes) (skipped : Nat) : List Event :=
  (if skipped = 0 then [] else [.trustSkipped path skipped]) ++ [.trustLoaded path anchors.length]

end Tls

namespace TlsSettings

def loadIdentity (files : Files) (settings : OutboundSettings) :
    Except TlsError (Option ClientIdentity × List Event) :=
  match settings.clientIdentity? with
  | none => .ok (none, [])
  | some (cert, key) => do
    let identity ← ClientIdentity.load files cert key
    .ok (some identity, identity.events cert)

def loadAnchors (files : Files) (settings : OutboundSettings) :
    Except TlsError (Option (List Bytes) × List Event) :=
  match settings.serviceCa with
  | none => .ok (none, [])
  | some path => do
    let (anchors, skipped) ← Tls.loadAnchors files path
    .ok (some anchors, Tls.anchorEvents path anchors skipped)

/-- Loads everything that is configured; there are no settings if nothing is. -/
def load (files : Files) (settings : OutboundSettings) :
    Except TlsError (Option TlsSettings × List Event) := do
  let (identity, identityEvents) ← loadIdentity files settings
  let (anchors, anchorEvents) ← loadAnchors files settings
  let events := identityEvents ++ anchorEvents
  let tls := { identity, anchors, protocols := Tls.applicationProtocols }
  match identity with
  | none => .ok (if anchors.isNone then none else some tls, events)
  | some id =>
    if id.keyMatches then .ok (some tls, events ++ [.clientIdentityEnabled id.commonName])
    else .error .identity

end TlsSettings

end ApiGateway
