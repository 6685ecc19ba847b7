import ApiGateway.Unicode.CombiningClass
import ApiGateway.Unicode.Decomposition

/-! # Normalization form C

Canonical decomposition, the ordering of combining marks, and canonical composition.
-/

namespace ApiGateway.Unicode

namespace Hangul

def syllables : Nat := 0xAC00
def leads : Nat := 0x1100
def vowels : Nat := 0x1161
def trails : Nat := 0x11A7
def leadCount : Nat := 19
def vowelCount : Nat := 21
def trailCount : Nat := 28

def decompose? (n : Nat) : Option (List Nat) :=
  if syllables ≤ n ∧ n < syllables + leadCount * vowelCount * trailCount then
    let index := n - syllables
    let trail := index % trailCount
    let lead := leads + index / (vowelCount * trailCount)
    let vowel := vowels + index % (vowelCount * trailCount) / trailCount
    some (if trail = 0 then [lead, vowel] else [lead, vowel, trails + trail])
  else none

def compose? (a b : Nat) : Option Nat :=
  if leads ≤ a ∧ a < leads + leadCount ∧ vowels ≤ b ∧ b < vowels + vowelCount then
    some (syllables + ((a - leads) * vowelCount + (b - vowels)) * trailCount)
  else if syllables ≤ a ∧ a < syllables + leadCount * vowelCount * trailCount ∧
      (a - syllables) % trailCount = 0 ∧ trails < b ∧ b < trails + trailCount then
    some (a + (b - trails))
  else none

end Hangul

def decomposeChar (c : Char) : Text :=
  match Hangul.decompose? c.toNat with
  | some parts => parts.map Char.ofNat
  | none =>
    match decompositions.find? (·.1 = c.toNat) with
    | some (_, parts) => parts.map Char.ofNat
    | none => [c]

/-- Puts a character in front of text whose marks are in order, behind the marks of a lower
class. -/
def insertMark (c : Char) : Text → Text
  | [] => [c]
  | d :: s =>
    if combiningClass d ≠ 0 ∧ combiningClass d < combiningClass c then d :: insertMark c s
    else c :: d :: s

/-- Sorts each run of marks by class, and keeps the order within a class. -/
def orderMarks (s : Text) : Text := s.foldr insertMark []

def compose? (a b : Char) : Option Char :=
  match Hangul.compose? a.toNat b.toNat with
  | some n => some (Char.ofNat n)
  | none => (compositions.find? (·.1 = (a.toNat, b.toNat))).map fun (_, n) => Char.ofNat n

/-- Composes the text that follows a starter. Between the two stand, in reverse, the marks that did
not compose with it; `lastClass` is the class of the last of them. -/
def composeAfter (starter : Char) (between : Text) (lastClass : Nat) : Text → Text
  | [] => starter :: between.reverse
  | c :: s =>
    let cls := combiningClass c
    let joined := if between = [] ∨ lastClass < cls then compose? starter c else none
    match joined with
    | some composed => composeAfter composed between lastClass s
    | none =>
      if cls = 0 then starter :: between.reverse ++ composeAfter c [] 0 s
      else composeAfter starter (c :: between) cls s

def compose : Text → Text
  | [] => []
  | c :: s => if combiningClass c = 0 then composeAfter c [] 0 s else c :: compose s

/-- Normalization form C of a text. -/
def nfc (s : Text) : Text := compose (orderMarks (s.flatMap decomposeChar))

end ApiGateway.Unicode
