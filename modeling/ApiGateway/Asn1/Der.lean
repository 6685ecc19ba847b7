import ApiGateway.Number.BigEndian

/-! # Distinguished encoding

Elements of a tag, a length and a content. Tags are single bytes, and a length is written in the
fewest bytes that hold it.
-/

namespace ApiGateway.Der

abbrev Tag := UInt8

namespace Tag

def boolean : Tag := 0x01
def integer : Tag := 0x02
def bitString : Tag := 0x03
def octetString : Tag := 0x04
def objectId : Tag := 0x06
def utf8String : Tag := 0x0C
def numericString : Tag := 0x12
def printableString : Tag := 0x13
def ia5String : Tag := 0x16
def utcTime : Tag := 0x17
def generalizedTime : Tag := 0x18
def sequence : Tag := 0x30
def set : Tag := 0x31

/-- The tag of an element of its own kind that encloses another one. -/
def explicit (n : UInt8) : Tag := 0xA0 + n

/-- The tag of an element of its own kind that encloses none. -/
def implicit (n : UInt8) : Tag := 0x80 + n

end Tag

/-- Contents are shorter than this many bytes. -/
def contentLimit : Nat := 65535

/-- A length in `count` bytes, which is at least `least`. -/
def longLength? (count least : Nat) (bytes : Bytes) : Option (Nat × Bytes) :=
  let digits := bytes.take count
  let length := Bytes.toNat digits
  if digits.length = count ∧ least ≤ length ∧ length < contentLimit then
    some (length, bytes.drop count)
  else none

def length? : Bytes → Option (Nat × Bytes)
  | [] => none
  | first :: rest =>
    if first < 0x80 then some (first.toNat, rest)
    else if first = 0x81 then longLength? 1 0x80 rest
    else if first = 0x82 then longLength? 2 0x100 rest
    else none

/-- The tag and the content of the first element, and what follows it. -/
def element? : Bytes → Option (Tag × Bytes × Bytes)
  | [] => none
  | tag :: rest => do
    let (length, rest) ← length? rest
    if tag &&& 0x1F = 0x1F ∨ rest.length < length then none
    else some (tag, rest.take length, rest.drop length)

/-- The content of the first element, which has the tag, and what follows it. -/
def first? (tag : Tag) (bytes : Bytes) : Option (Bytes × Bytes) := do
  let (found, content, rest) ← element? bytes
  if found = tag then some (content, rest) else none

/-- The content of the only element, which has the tag. -/
def only? (tag : Tag) (bytes : Bytes) : Option Bytes := do
  let (content, rest) ← first? tag bytes
  if rest = [] then some content else none

/-- The contents of elements that all have the tag. -/
def allOf? (tag : Tag) : Nat → Bytes → Option (List Bytes)
  | _, [] => some []
  | 0, _ :: _ => none
  | fuel + 1, bytes => do
    let (content, rest) ← first? tag bytes
    (allOf? tag fuel rest).map (content :: ·)

/-- The contents of the elements with the tag up to the first other element. -/
def run (tag : Tag) : Nat → Bytes → List Bytes
  | 0, _ => []
  | fuel + 1, bytes =>
    match first? tag bytes with
    | some (content, rest) => content :: run tag fuel rest
    | none => []

/-- Cuts off an element that has the tag, if there is one. -/
def skipOptional (tag : Tag) (bytes : Bytes) : Bytes :=
  match first? tag bytes with
  | some (_, rest) => rest
  | none => bytes

def wholeBits? (content : Bytes) : Option Bytes :=
  match content with
  | 0 :: bytes => some bytes
  | _ => none

/-- The value of an integer that is not negative, without a needless zero byte in front. -/
def natural? (content : Bytes) : Option Nat :=
  match content with
  | [] => none
  | [a] => if a < 0x80 then some a.toNat else none
  | a :: b :: rest =>
    if 0x80 ≤ a ∨ (a = 0 ∧ b < 0x80) then none else some (Bytes.toNat (a :: b :: rest))

def writeLength (n : Nat) : Bytes :=
  if n < 0x80 then [UInt8.ofNat n]
  else if n < 0x100 then [0x81, UInt8.ofNat n]
  else 0x82 :: Bytes.ofNat 2 n

/-- An element; its content is shorter than the limit. -/
def write (tag : Tag) (content : Bytes) : Bytes := tag :: writeLength content.length ++ content

end ApiGateway.Der
