import ApiGateway.Asn1.Der

/-! # Certificates

Certificates of version 3 as they are used for authentication, and the older ones that may still
serve as trust anchors. Nothing may follow a certificate or stand between its parts.
-/

namespace ApiGateway

open Der

structure SignedContent where
  signed : Bytes
  algorithm : Bytes
  deriving DecidableEq, Repr

/-- What is needed of a certificate: the key of its subject. -/
structure Certificate where
  subjectKey : Bytes
  deriving DecidableEq, Repr

namespace Certificate

def signedContent? (der : Bytes) : Option SignedContent := do
  let content ← only? .sequence der
  let (signed, rest) ← first? .sequence content
  let (algorithm, rest) ← first? .sequence rest
  let _ ← wholeBits? (← only? .bitString rest)
  some { signed, algorithm }

/-- The extensions with an effect: key usage, alternative names, basic constraints, name
constraints, distribution of revocation lists, and extended key usage. -/
def knownExtensions : List Bytes := [15, 17, 19, 30, 31, 37].map fun n => [0x55, 0x1D, n]

def keyUsage : Bytes := [0x55, 0x1D, 15]

/-- A truth value; false is left out. -/
def critical? (bytes : Bytes) : Option (Bool × Bytes) :=
  if bytes.head? = some Tag.boolean then
    match first? .boolean bytes with
    | some ([0xFF], rest) => some (true, rest)
    | some ([0x00], rest) => some (false, rest)
    | _ => none
  else some (false, bytes)

/-- The identifier of a known extension whose value can be read, or nothing of one that may be
ignored. It fails on an extension that is critical and not known. -/
def extension? (content : Bytes) : Option (Option Bytes) := do
  let (id, rest) ← first? .objectId content
  let (critical, rest) ← critical? rest
  let value ← only? .octetString rest
  if knownExtensions.contains id then
    if id = keyUsage ∨ (only? .sequence value).isSome then some (some id) else none
  else if critical then none
  else some none

/-- Whether what follows the key is a list of extensions, none of the known ones twice. -/
def hasExtensions (bytes : Bytes) : Bool :=
  bytes.isEmpty ||
    ((do
      let list ← only? .sequence (← only? (.explicit 3) bytes)
      let ids := (← (← allOf? .sequence list.length list).mapM extension?).filterMap id
      some (decide ids.Nodup)) : Option Bool).getD false

/-- Reads a certificate of version 3. -/
def ofDer? (der : Bytes) : Option Certificate := do
  let content ← signedContent? der
  let (version, rest) ← first? (.explicit 0) content.signed
  let version ← only? .integer version
  let (_, rest) ← first? .integer rest
  let (algorithm, rest) ← first? .sequence rest
  let (_, rest) ← first? .sequence rest
  let (_, rest) ← first? .sequence rest
  let (_, rest) ← first? .sequence rest
  let (subjectKey, rest) ← first? .sequence rest
  if version = [2] ∧ algorithm = content.algorithm ∧ hasExtensions rest then some { subjectKey }
  else none

def ofVersion1? (signed : Bytes) : Option Certificate := do
  let (_, rest) ← first? .integer signed
  let (_, rest) ← first? .sequence rest
  let (_, rest) ← first? .sequence rest
  let (_, rest) ← first? .sequence rest
  let (_, rest) ← first? .sequence rest
  some { subjectKey := ← only? .sequence rest }

def isAnchor (der : Bytes) : Bool :=
  (ofDer? der).isSome || ((signedContent? der).bind (ofVersion1? ·.signed)).isSome

end Certificate

end ApiGateway
