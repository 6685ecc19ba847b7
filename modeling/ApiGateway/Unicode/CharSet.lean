import ApiGateway.Text

/-! # Tables of characters

A property of characters is written as a table of numbers in base 36, separated by blanks. This
module reads such tables into sets of characters and into maps from characters to numbers.
-/

namespace ApiGateway.Unicode

/-- Adds a character of a table to the numbers read so far, of which the last may be unfinished. -/
def readTableChar (numbers : List Nat × Option Nat) (c : Char) : List Nat × Option Nat :=
  match numbers, Text.digitValue? 36 c with
  | (done, some n), some d => (done, some (n * 36 + d))
  | (done, none), some d => (done, some d)
  | (done, some n), none => (n :: done, none)
  | (done, none), none => (done, none)

def tableNumbers (table : String) : List Nat :=
  match table.toList.foldl readTableChar ([], none) with
  | (done, some n) => (n :: done).reverse
  | (done, none) => done.reverse

/-- A set of characters as ranges, each with its first number and its length. -/
structure CharSet where
  ranges : List (Nat × Nat)
  deriving Repr

namespace CharSet

/-- A table lists the gap before a range and its length. -/
def ofNumbers (start : Nat) : List Nat → List (Nat × Nat)
  | gap :: length :: rest => (start + gap, length) :: ofNumbers (start + gap + length) rest
  | _ => []

def ofTable (table : String) : CharSet := ⟨ofNumbers 0 (tableNumbers table)⟩

def contains (set : CharSet) (c : Char) : Bool :=
  set.ranges.any fun (first, length) => first ≤ c.toNat && c.toNat < first + length

end CharSet

/-- A map from characters to numbers as ranges, each with its first number, its length and the
value of its characters. -/
structure CharMap where
  ranges : List (Nat × Nat × Nat)
  deriving Repr

namespace CharMap

/-- A table lists the gap before a range, its length and its value. -/
def ofNumbers (start : Nat) : List Nat → List (Nat × Nat × Nat)
  | gap :: length :: value :: rest =>
    (start + gap, length, value) :: ofNumbers (start + gap + length) rest
  | _ => []

def ofTable (table : String) : CharMap := ⟨ofNumbers 0 (tableNumbers table)⟩

def find? (map : CharMap) (c : Char) : Option Nat :=
  (map.ranges.find? fun (first, length, _) => first ≤ c.toNat && c.toNat < first + length).map
    (·.2.2)

end CharMap

end ApiGateway.Unicode
