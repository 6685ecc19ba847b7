import ApiGateway.Text

/-! # Base64

Three bytes are written as four characters of a 64 letter alphabet. The URL alphabet writes no
padding. Reading refuses characters outside the alphabet, wrong padding, and set bits in the last
character that belong to no byte.
-/

namespace ApiGateway.Base64

/-- The two last letters of the alphabet, and whether a short last group is filled up. -/
structure Alphabet where
  letter62 : Char
  letter63 : Char
  padded : Bool
  deriving DecidableEq, Repr

def standard : Alphabet := ⟨'+', '/', true⟩

def url : Alphabet := ⟨'-', '_', false⟩

namespace Alphabet

variable (alphabet : Alphabet)

def letter (n : Nat) : Char :=
  if n < 26 then Char.ofNat ('A'.toNat + n)
  else if n < 52 then Char.ofNat ('a'.toNat + (n - 26))
  else if n < 62 then Char.ofNat ('0'.toNat + (n - 52))
  else if n = 62 then alphabet.letter62
  else alphabet.letter63

def value? (c : Char) : Option Nat :=
  if c.isUpper then some (c.toNat - 'A'.toNat)
  else if c.isLower then some (c.toNat - 'a'.toNat + 26)
  else if c.isDigit then some (c.toNat - '0'.toNat + 52)
  else if c = alphabet.letter62 then some 62
  else if c = alphabet.letter63 then some 63
  else none

def fill (count : Nat) : Text := if alphabet.padded then List.replicate count '=' else []

def encode : Bytes → Text
  | [] => []
  | [a] =>
    let n := a.toNat * 16
    alphabet.letter (n / 64) :: alphabet.letter (n % 64) :: alphabet.fill 2
  | [a, b] =>
    let n := (a.toNat * 256 + b.toNat) * 4
    alphabet.letter (n / 4096) :: alphabet.letter (n / 64 % 64) :: alphabet.letter (n % 64) ::
      alphabet.fill 1
  | a :: b :: c :: rest =>
    let n := (a.toNat * 256 + b.toNat) * 256 + c.toNat
    alphabet.letter (n / 262144) :: alphabet.letter (n / 4096 % 64) ::
      alphabet.letter (n / 64 % 64) :: alphabet.letter (n % 64) :: encode rest

/-- The bytes of a last group of two or three letters. -/
def decodeLast? : Text → Option Bytes
  | [] => some []
  | [a, b] => do
    let n := (← alphabet.value? a) * 64 + (← alphabet.value? b)
    if n % 16 = 0 then some [UInt8.ofNat (n / 16)] else none
  | [a, b, c] => do
    let n := ((← alphabet.value? a) * 64 + (← alphabet.value? b)) * 64 + (← alphabet.value? c)
    if n % 4 = 0 then some [UInt8.ofNat (n / 1024), UInt8.ofNat (n / 4 % 256)] else none
  | _ => none

def decodeLetters? : Text → Option Bytes
  | a :: b :: c :: d :: rest => do
    let n := (((← alphabet.value? a) * 64 + (← alphabet.value? b)) * 64 + (← alphabet.value? c)) *
      64 + (← alphabet.value? d)
    let bytes ← decodeLetters? rest
    some (UInt8.ofNat (n / 65536) :: UInt8.ofNat (n / 256 % 256) :: UInt8.ofNat (n % 256) :: bytes)
  | last => alphabet.decodeLast? last

/-- The letters without the padding, if the padding is what the alphabet asks for. -/
def unpadded? (s : Text) : Option Text :=
  if !alphabet.padded then some s
  else if s.length % 4 ≠ 0 then none
  else
    let letters := Text.trimEnd (· = '=') s
    if s.length < letters.length + 3 then some letters else none

def decode? (s : Text) : Option Bytes := do alphabet.decodeLetters? (← alphabet.unpadded? s)

end Alphabet

end ApiGateway.Base64
