import ApiGateway.Json.Basic
import ApiGateway.Json.Syntax

/-! # Values of JSON text

The second step of reading JSON: strings become text, numbers become integers or doubles, and
nesting is bounded. It fails on lone surrogates, on text that is not UTF-8, on numbers beyond the
doubles, and on documents that are nested too deeply.
-/

namespace ApiGateway.Json

namespace RawString

def pair (high low : Nat) : Char :=
  Char.ofNat (0x10000 + (high - 0xD800) * 0x400 + (low - 0xDC00))

def bytes? : RawString → Option Bytes
  | [] => some []
  | .plain c :: rest => (bytes? rest).map (UInt8.ofNat c.toNat :: ·)
  | .escaped high :: .escaped low :: rest =>
    if 0xD800 ≤ high ∧ high < 0xDC00 then
      if 0xDC00 ≤ low ∧ low < 0xE000 then
        (bytes? rest).map (Text.utf8Char (pair high low) ++ ·)
      else none
    else if 0xDC00 ≤ high ∧ high < 0xE000 then none
    else (bytes? (.escaped low :: rest)).map (Text.utf8Char (Char.ofNat high) ++ ·)
  | .escaped unit :: rest =>
    if 0xD800 ≤ unit ∧ unit < 0xE000 then none
    else (bytes? rest).map (Text.utf8Char (Char.ofNat unit) ++ ·)

def text? (s : RawString) : Option Text := do Text.ofUtf8? (← bytes? s)

end RawString

namespace RawNumber

def natMax : Nat := Nat.pow 2 64 - 1

/-- Takes digits into a number for as long as it stays within 64 bits. The rest is what it could
not take. -/
def absorb (n : Nat) : List Nat → Nat × List Nat
  | [] => (n, [])
  | d :: ds => if n * 10 + d ≤ natMax then absorb (n * 10 + d) ds else (n, d :: ds)

def powerOfTen (k : Nat) : Option Binary64 := Binary64.ofNat? (Nat.pow 10 k)

/-- The double for `significand * 10 ^ exponent`. Powers of ten beyond `10 ^ 308` are divided out
in two steps; what is still smaller after them is zero. -/
def scale? (significand : Nat) (exponent : Int) : Option Binary64 := do
  let x ← Binary64.ofNat? significand
  if 0 ≤ exponent then
    if exponent ≤ 308 then Binary64.mul? x (← powerOfTen exponent.toNat)
    else if x.isZero then some x
    else none
  else if -308 ≤ exponent then Binary64.div? x (← powerOfTen (-exponent).toNat)
  else if -616 ≤ exponent then
    let y ← Binary64.div? x (← powerOfTen 308)
    Binary64.div? y (← powerOfTen (-(exponent + 308)).toNat)
  else some .zero

def power : Option (Bool × List Nat) → Int
  | none => 0
  | some (negative, digits) =>
    let n : Nat := digits.foldl (fun n d => n * 10 + d) 0
    if negative then -n else n

def ofReal (negative : Bool) (x : Binary64) : Json := .real (if negative then x.neg else x)

/-- An integer if the number is written as one and fits 64 bits; a negative zero does not. -/
def value? (n : RawNumber) : Option Json :=
  let (significand, dropped) := absorb 0 n.whole
  match n.fraction, n.exponent with
  | none, none =>
    if dropped = [] ∧ !n.negative then some (.integer significand)
    else if dropped = [] ∧ 0 < significand ∧ significand ≤ Nat.pow 2 63 then
      some (.integer (-significand))
    else (scale? significand dropped.length).map (ofReal n.negative)
  | fraction, exponent =>
    let fraction := fraction.getD []
    let (significand, unused) := absorb significand fraction
    let places : Int := dropped.length - (fraction.length - unused.length : Nat)
    (scale? significand (places + power exponent)).map (ofReal n.negative)

end RawNumber

namespace Raw

def maxDepth : Nat := 127

mutual

/-- The value, if it nests at most `depth` deep. -/
def value? (depth : Nat) : Raw → Option Json
  | .null => some .null
  | .bool b => some (.bool b)
  | .number n => n.value?
  | .string s => s.text?.map .string
  | .array items =>
    match depth with
    | 0 => none
    | depth + 1 => (itemValues? depth items).map .array
  | .object members =>
    match depth with
    | 0 => none
    | depth + 1 => (memberValues? depth members).map fun ms =>
        .object (ms.foldl (fun kept (k, v) => Members.put k v kept) [])

def itemValues? (depth : Nat) : List Raw → Option (List Json)
  | [] => some []
  | item :: items => do
    let value ← Raw.value? depth item
    some (value :: (← itemValues? depth items))

def memberValues? (depth : Nat) : List (RawString × Raw) → Option Members
  | [] => some []
  | (key, item) :: members => do
    let key ← RawString.text? key
    let value ← Raw.value? depth item
    some ((key, value) :: (← memberValues? depth members))

end

end Raw

def ofBytes? (bytes : Bytes) : Option Json := do (← Raw.ofBytes? bytes).value? Raw.maxDepth

end ApiGateway.Json
