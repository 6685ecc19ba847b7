/-! # Text and bytes

Text is a list of characters and a byte string a list of bytes, so that every function on them is
a recursion on the data. This module holds the cutting and trimming that the other modules share.
-/

namespace ApiGateway

abbrev Text := List Char

abbrev Bytes := List UInt8

instance : Coe String Text := ⟨String.toList⟩

namespace Text

/-- The pieces between the occurrences of `sep`. There is always at least one. -/
def split (sep : Char) : Text → List Text
  | [] => [[]]
  | c :: cs =>
    if c = sep then [] :: split sep cs
    else match split sep cs with
      | [] => [[c]]
      | piece :: pieces => (c :: piece) :: pieces

def join (sep : Text) : List Text → Text
  | [] => []
  | [part] => part
  | part :: parts => part ++ sep ++ join sep parts

/-- The text without its longest suffix of characters in `p`. -/
def trimEnd (p : Char → Bool) (s : Text) : Text :=
  (s.reverse.dropWhile p).reverse

/-- The text without its longest affixes of characters in `p`. -/
def trimBoth (p : Char → Bool) (s : Text) : Text :=
  trimEnd p (s.dropWhile p)

/-- Cuts at the first occurrence of `sep`, which belongs to neither part. -/
def cutFirst (sep : Char) : Text → Option (Text × Text)
  | [] => none
  | c :: cs =>
    if c = sep then some ([], cs)
    else (cutFirst sep cs).map fun (left, right) => (c :: left, right)

/-- Cuts at the last occurrence of `sep`, which belongs to neither part. -/
def cutLast (sep : Char) : Text → Option (Text × Text)
  | [] => none
  | c :: cs =>
    match cutLast sep cs with
    | some (left, right) => some (c :: left, right)
    | none => if c = sep then some ([], cs) else none

/-- The ASCII letters in lower case, all else as it is. -/
def lower (s : Text) : Text := s.map Char.toLower

def equalIgnoringCase (s t : Text) : Bool := lower s == lower t

/-- Whether a text comes before another one, character by character in the order of their numbers,
or is the same. -/
def precedes : Text → Text → Bool
  | [], _ => true
  | _ :: _, [] => false
  | c :: s, d :: t => c.toNat < d.toNat || (c == d && precedes s t)

def isAscii (s : Text) : Bool := s.all fun c => c.val < 128

def ofNat (n : Nat) : Text := Nat.toDigits 10 n

/-- The value of a digit in a base of at most 36, with letters of either case. -/
def digitValue? (base : Nat) (c : Char) : Option Nat :=
  let value :=
    if '0' ≤ c ∧ c ≤ '9' then c.toNat - '0'.toNat
    else if 'a' ≤ c ∧ c ≤ 'z' then c.toNat - 'a'.toNat + 10
    else if 'A' ≤ c ∧ c ≤ 'Z' then c.toNat - 'A'.toNat + 10
    else base
  if value < base then some value else none

/-- The number that a text of digits writes; empty text writes zero. -/
def numeral? (base : Nat) (s : Text) : Option Nat :=
  s.foldl (fun sum c => do some ((← sum) * base + (← digitValue? base c))) (some 0)

/-- The digit of a number below 16, letters in upper case. -/
def hexDigit (n : Nat) : Char :=
  if n < 10 then Char.ofNat ('0'.toNat + n) else Char.ofNat ('A'.toNat + n - 10)

theorem split_ne_nil (sep : Char) (s : Text) : split sep s ≠ [] := by
  induction s with
  | nil => simp [split]
  | cons c cs ih =>
    unfold split
    split
    · simp
    · cases h : split sep cs <;> simp

end Text

namespace Bytes

def latin1 (b : Bytes) : Text := b.map fun x => Char.ofNat x.toNat

/-- The text with each character as one byte; only meant for characters below 256. -/
def ofLatin1 (s : Text) : Bytes := s.map fun c => UInt8.ofNat c.toNat

end Bytes

end ApiGateway
