import ApiGateway.Text

/-! # Punycode

The form in which a label with other than ASCII letters is written with letters, digits and
hyphens. The other characters are inserted in increasing order; what is written is the distance
from one insertion to the next, in digits whose weights adapt to the distances so far.
-/

namespace ApiGateway.Domain.Punycode

def base : Nat := 36
def leastDigit : Nat := 1
def greatestDigit : Nat := 26
def initialBias : Nat := 72

def digit (n : Nat) : Char :=
  if n < 26 then Char.ofNat ('a'.toNat + n) else Char.ofNat ('0'.toNat + (n - 26))

def digitValue? (c : Char) : Option Nat :=
  if c.isLower then some (c.toNat - 'a'.toNat)
  else if c.isUpper then some (c.toNat - 'A'.toNat)
  else if c.isDigit then some (c.toNat - '0'.toNat + 26)
  else none

/-- The least digit that is not the last one of a distance, at a position counted in bases. -/
def threshold (bias position : Nat) : Nat :=
  min greatestDigit (max leastDigit (position - bias))

/-- Divides a distance down to the range of the last formula, and counts the divisions. -/
def settle : Nat → Nat → Nat → Nat
  | 0, k, delta => k + base * delta / (delta + 38)
  | fuel + 1, k, delta =>
    if (base - leastDigit) * greatestDigit / 2 < delta then
      settle fuel (k + base) (delta / (base - leastDigit))
    else k + base * delta / (delta + 38)

/-- The bias after a distance has been written or read, when there are `count` characters. -/
def adapt (delta count : Nat) (first : Bool) : Nat :=
  let delta := if first then delta / 700 else delta / 2
  let delta := delta + delta / count
  settle delta.log2 0 delta

/-- Reads a distance. The weight of the next digit and the sum so far are given. -/
def readDistance? (bias position weight sum : Nat) : Text → Option (Nat × Text)
  | [] => none
  | c :: rest => do
    let d ← digitValue? c
    let sum := sum + d * weight
    let t := threshold bias position
    if d < t then some (sum, rest)
    else readDistance? bias (position + base) (weight * (base - t)) sum rest

/-- Inserts a character for each distance. `code` is the number of the last character inserted and
`index` the place after it. -/
def readInsertions? : Nat → Nat → Nat → Nat → Text → Text → Option Text
  | _, _, _, _, done, [] => some done
  | 0, _, _, _, _, _ => none
  | fuel + 1, code, index, bias, done, rest => do
    let (distance, rest) ← readDistance? bias base 1 0 rest
    let count := done.length + 1
    let code := code + (index + distance) / count
    let index := (index + distance) % count
    if code.isValidChar then
      readInsertions? fuel code (index + 1) (adapt distance count (done.all fun c => c.val < 128))
        (done.take index ++ Char.ofNat code :: done.drop index) rest
    else none

/-- Reads a label without its `xn--`. -/
def decode? (s : Text) : Option Text :=
  let (plain, rest) := match Text.cutLast '-' s with
    | some ([], _) => ([], s)
    | some (plain, rest) => (plain, rest)
    | none => ([], s)
  readInsertions? rest.length 128 0 initialBias plain rest

/-- Writes a distance, which is at least one digit long. -/
def writeDistance (bias : Nat) : Nat → Nat → Nat → Text
  | 0, _, q => [digit q]
  | fuel + 1, position, q =>
    let t := threshold bias position
    if q < t then [digit q]
    else
      digit (t + (q - t) % (base - t)) ::
        writeDistance bias fuel (position + base) ((q - t) / (base - t))

structure Writer where
  distance : Nat
  count : Nat
  bias : Nat
  output : Text

def Writer.pass (plain code : Nat) (w : Writer) (c : Char) : Writer :=
  if c.toNat < code then { w with distance := w.distance + 1 }
  else if c.toNat = code then
    { distance := 0
      count := w.count + 1
      bias := adapt w.distance (w.count + 1) (w.count = plain)
      output := w.output ++ writeDistance w.bias w.distance base w.distance }
  else w

/-- Writes the insertions of all characters in a list of increasing numbers, of which `code` is
the least number not yet reached. -/
def writeInsertions (label : Text) (plain : Nat) : Nat → List Nat → Writer → Text
  | _, [], w => w.output
  | code, next :: rest, w =>
    let w := { w with distance := w.distance + (next - code) * (w.count + 1) }
    let w := label.foldl (Writer.pass plain next) w
    writeInsertions label plain (next + 1) rest { w with distance := w.distance + 1 }

def encode (label : Text) : Text :=
  let plain := label.filter fun c => c.val < 128
  let others := (label.filter fun c => 128 ≤ c.val).map Char.toNat
  let codes := others.mergeSort.eraseReps
  let start := if plain = [] then [] else plain ++ ['-']
  writeInsertions label plain.length 128 codes ⟨0, plain.length, initialBias, start⟩

end ApiGateway.Domain.Punycode
