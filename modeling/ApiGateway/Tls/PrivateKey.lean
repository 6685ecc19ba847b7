import ApiGateway.Asn1.Der
import ApiGateway.Crypto.Edwards
import ApiGateway.Crypto.Weierstrass
import ApiGateway.Tls.Pem

/-! # Private keys

Keys of the types RSA, P-256, P-384 and Ed25519. A usable key is consistent in itself, and yields
the public key as a certificate holds it.
-/

namespace ApiGateway.PrivateKey

open Der

def rsaId : Bytes := [0x2A, 0x86, 0x48, 0x86, 0xF7, 0x0D, 0x01, 0x01, 0x01]
def curveKeyId : Bytes := [0x2A, 0x86, 0x48, 0xCE, 0x3D, 0x02, 0x01]
def p256Id : Bytes := [0x2A, 0x86, 0x48, 0xCE, 0x3D, 0x03, 0x01, 0x07]
def p384Id : Bytes := [0x2B, 0x81, 0x04, 0x00, 0x22]
def ed25519Id : Bytes := [0x2B, 0x65, 0x70]

/-- The algorithm of RSA keys has an empty parameter. -/
def rsaAlgorithm : Bytes := write .objectId rsaId ++ [0x05, 0x00]

/-- The algorithm of keys on a curve has the curve as its parameter. -/
def curveAlgorithm (curveId : Bytes) : Bytes :=
  write .objectId curveKeyId ++ write .objectId curveId

def ed25519Algorithm : Bytes := write .objectId ed25519Id

/-- What a certificate holds of a public key. -/
def subjectKey (algorithm publicKey : Bytes) : Bytes :=
  write .sequence algorithm ++ write .bitString (0 :: publicKey)

/-- The public key that may follow a private one, under either of two tags. -/
def attachedKey? (bytes : Bytes) : Option Bytes :=
  match only? (.implicit 1) bytes with
  | some content => wholeBits? content
  | none => do wholeBits? (← only? .bitString (← only? (.explicit 1) bytes))

/-- A wrapped key of a known algorithm. Only the second version of the wrapping, which not every
algorithm allows, has a public key attached. -/
def unwrap? (algorithm : Bytes) (allowsPublic : Bool) (der : Bytes) :
    Option (Bytes × Option Bytes) := do
  let content ← only? .sequence der
  let (version, rest) ← first? .integer content
  let (found, rest) ← first? .sequence rest
  let (key, rest) ← first? .octetString rest
  let rest := skipOptional (.explicit 0) rest
  if found ≠ algorithm then none
  else if version = [0] ∧ rest = [] then some (key, none)
  else if version = [1] ∧ allowsPublic then some (key, some (← attachedKey? rest))
  else none

/-- The least and the greatest length of an RSA modulus in bits. -/
def modulusBits : Nat × Nat := (2048, 4096)

def bitLength (n : Nat) : Nat := if n = 0 then 0 else n.log2 + 1

structure RsaKey where
  n : Nat
  e : Nat
  d : Nat
  p : Nat
  q : Nat
  dp : Nat
  dq : Nat
  inverse : Nat
  deriving DecidableEq, Repr

def RsaKey.isConsistent (k : RsaKey) : Bool :=
  let bits := bitLength k.n
  let half := (bits + 1) / 2
  modulusBits.1 ≤ bits && bits ≤ modulusBits.2 && k.n % 2 == 1 &&
    65537 ≤ k.e && k.e < Nat.pow 2 33 && k.e % 2 == 1 &&
    bitLength k.p == half && bitLength k.q == half && k.p * k.q == k.n &&
    k.d < k.n && k.d % 2 == 1 && half < bitLength k.d &&
    k.dp < k.p && k.dp % 2 == 1 && k.dq < k.q && k.dq % 2 == 1 &&
    (k.p < k.q || (k.inverse < k.p && k.inverse * k.q % k.p == 1))

/-- The numbers of an RSA key in order, and the first two of them as they are written. -/
def rsaNumbers? (der : Bytes) : Option (List Nat × Bytes) := do
  let content ← only? .sequence der
  let (version, rest) ← first? .integer content
  let contents ← allOf? .integer rest.length rest
  if version = [0] then
    some (← contents.mapM natural?, (contents.take 2).flatMap (write .integer))
  else none

def ofRsa? (der : Bytes) : Option Bytes := do
  match ← rsaNumbers? der with
  | ([n, e, d, p, q, dp, dq, inverse], written) =>
    if RsaKey.isConsistent ⟨n, e, d, p, q, dp, dq, inverse⟩ then
      some (subjectKey rsaAlgorithm (write .sequence written))
    else none
  | _ => none

/-- The public key of a key on a curve, which must have it attached. -/
def ofCurve? (curve : Weierstrass) (curveId der : Bytes) : Option Bytes := do
  let content ← only? .sequence der
  let (version, rest) ← first? .integer content
  let (secret, rest) ← first? .octetString rest
  let parameter := (first? (.explicit 0) rest).map (·.1)
  let rest := skipOptional (.explicit 0) rest
  let publicKey ← wholeBits? (← only? .bitString (← only? (.explicit 1) rest))
  let n := Bytes.toNat secret
  if version = [1] ∧ secret.length = curve.bytes ∧ 0 < n ∧ n < curve.order ∧
      (parameter.all (· = write .objectId curveId)) ∧ publicKey = curve.publicKey n then
    some (subjectKey (curveAlgorithm curveId) publicKey)
  else none

def seedLength : Nat := 32

def ofSeed? (wrapped : Bytes) (attached : Option Bytes) : Option Bytes := do
  let seed ← only? .octetString wrapped
  if seed.length = seedLength ∧ attached.all (· = Edwards.publicKey seed) then
    some (subjectKey ed25519Algorithm (Edwards.publicKey seed))
  else none

def ofWrapped? (der : Bytes) : Option Bytes :=
  ((unwrap? rsaAlgorithm false der).bind fun (key, _) => ofRsa? key).or <|
  ((unwrap? (curveAlgorithm p256Id) false der).bind fun (key, _) => ofCurve? .p256 p256Id key).or <|
  ((unwrap? (curveAlgorithm p384Id) false der).bind fun (key, _) => ofCurve? .p384 p384Id key).or <|
  (unwrap? ed25519Algorithm true der).bind fun (key, attached) => ofSeed? key attached

def publicKey? (key : Pem.Section) : Option Bytes :=
  match key.kind with
  | .pkcs1Key => ofRsa? key.content
  | .sec1Key => (ofCurve? .p256 p256Id key.content).or (ofCurve? .p384 p384Id key.content)
  | .pkcs8Key => ofWrapped? key.content
  | _ => none

end ApiGateway.PrivateKey
