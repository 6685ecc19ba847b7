import ApiGateway.Asn1.Der
import ApiGateway.Text.Utf8

/-! # Common names

The name that a certificate gives its subject. Only the structure on the way to it is checked, and
neither what the certificate allows nor whether it is still valid.
-/

namespace ApiGateway.CommonName

open Der

/-- The object identifier 2.5.4.3. -/
def commonNameId : Bytes := [0x55, 0x04, 0x03]

/-- An algorithm: an identifier that may have a parameter. -/
def skipAlgorithm? (bytes : Bytes) : Option Bytes := do
  let (content, rest) ← first? .sequence bytes
  let _ ← first? .objectId content
  some rest

def twoDigits? : Bytes → Option (Nat × Bytes)
  | a :: b :: rest =>
    if 0x30 ≤ a ∧ a ≤ 0x39 ∧ 0x30 ≤ b ∧ b ≤ 0x39 then
      some ((a.toNat - 0x30) * 10 + (b.toNat - 0x30), rest)
    else none
  | _ => none

/-- Month, day, hour, minute, seconds, and the letter of universal time. -/
def isMoment (bytes : Bytes) : Bool :=
  ((do
    let (month, bytes) ← twoDigits? bytes
    let (day, bytes) ← twoDigits? bytes
    let (hour, bytes) ← twoDigits? bytes
    let (minute, bytes) ← twoDigits? bytes
    let (second, bytes) ← twoDigits? bytes
    some (1 ≤ month ∧ month ≤ 12 ∧ 1 ≤ day ∧ day ≤ 31 ∧ hour ≤ 23 ∧ minute ≤ 59 ∧ second ≤ 59 ∧
      bytes = [0x5A] : Bool)) : Option Bool).getD false

/-- A time with a year of two or of four digits. -/
def skipTime? (bytes : Bytes) : Option Bytes := do
  let (tag, content, rest) ← element? bytes
  let (_, moment) ← twoDigits? content
  if tag = .utcTime then if isMoment moment then some rest else none
  else if tag = .generalizedTime then
    let (_, moment) ← twoDigits? moment
    if isMoment moment then some rest else none
  else none

/-- One attribute of a name: its identifier, the tag of its value, and the value. -/
def attribute? (content : Bytes) : Option (Bytes × Tag × Bytes) := do
  let (id, rest) ← first? .objectId content
  let (tag, value, _) ← element? rest
  some (id, tag, value)

def attributes (name : Bytes) : List (Bytes × Tag × Bytes) :=
  (run .set name.length name).flatMap fun set =>
    (run .sequence set.length set).filterMap attribute?

/-- The types of text that a common name can have. -/
def textTags : List Tag := [.utf8String, .numericString, .printableString, .ia5String]

/-- The first common name among attributes, if it is text. -/
def ofName? (name : Bytes) : Option Text := do
  let (_, tag, value) ← (attributes name).find? (·.1 = commonNameId)
  if textTags.contains tag then Text.ofUtf8? value else none

/-- The extensions, if there are any, each have an identifier and a value. -/
def hasExtensions (bytes : Bytes) : Bool :=
  match first? (.explicit 3) bytes with
  | none => bytes.isEmpty
  | some (content, _) =>
    match first? .sequence content with
    | none => false
    | some (list, _) =>
      match allOf? .sequence list.length list with
      | none => false
      | some extensions => extensions.all fun extension =>
        ((do
          let (_, rest) ← first? .objectId extension
          first? .octetString (skipOptional .boolean rest)) : Option (Bytes × Bytes)).isSome

def subject? (content : Bytes) : Option Bytes := do
  let rest := skipOptional (.explicit 0) content
  let (_, rest) ← first? .integer rest
  let rest ← skipAlgorithm? rest
  let (_, rest) ← first? .sequence rest
  let (validity, rest) ← first? .sequence rest
  let _ ← skipTime? (← skipTime? validity)
  let (subject, rest) ← first? .sequence rest
  let (key, rest) ← first? .sequence rest
  let _ ← first? .bitString (← skipAlgorithm? key)
  let rest := skipOptional (.implicit 2) (skipOptional (.implicit 1) rest)
  if hasExtensions rest then some subject else none

/-- The common name of a certificate's subject. Nothing that follows the certificate matters. -/
def ofCertificate? (certificate : Bytes) : Option Text := do
  let (content, _) ← first? .sequence certificate
  let (signed, rest) ← first? .sequence content
  let _ ← first? .bitString (← skipAlgorithm? rest)
  ofName? (← subject? signed)

end ApiGateway.CommonName
