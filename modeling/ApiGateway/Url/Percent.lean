import ApiGateway.Text.Utf8

/-! # Percent encoding

Each part of a URL has a set of characters that it shows as `%` and two hexadecimal digits for
every byte of the character. Control characters and all that is not ASCII belong to every set.
-/

namespace ApiGateway.Url

abbrev EncodeSet := Char → Bool

def controlSet : EncodeSet := fun c => c.toNat < 0x20 || 0x7F ≤ c.toNat

def fragmentSet : EncodeSet := fun c => controlSet c || " \"<>\x60".toList.contains c

def pathSet : EncodeSet := fun c => fragmentSet c || "#?\x7b\x7d".toList.contains c

def userSet : EncodeSet := fun c => pathSet c || "/:;=@[\\]^|".toList.contains c

def querySet : EncodeSet := fun c => controlSet c || " \"#<>'".toList.contains c

def percentByte (b : UInt8) : Text :=
  ['%', Text.hexDigit (b.toNat / 16), Text.hexDigit (b.toNat % 16)]

def percentEncode (set : EncodeSet) (s : Text) : Text :=
  s.flatMap fun c => if set c then (Text.utf8Char c).flatMap percentByte else [c]

/-- Undoes percent encoding. A `%` without two digits behind it stays. -/
def percentDecode : Bytes → Bytes
  | [] => []
  | [a] => [a]
  | [a, b] => [a, b]
  | a :: b :: c :: rest =>
    if a = 0x25 then
      match Text.numeral? 16 [Char.ofNat b.toNat, Char.ofNat c.toNat] with
      | some n => UInt8.ofNat n :: percentDecode rest
      | none => a :: percentDecode (b :: c :: rest)
    else a :: percentDecode (b :: c :: rest)

end ApiGateway.Url
