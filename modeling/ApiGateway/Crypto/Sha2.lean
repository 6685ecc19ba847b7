import ApiGateway.Number.BigEndian

/-! # The SHA-2 hash functions

One description for all members of the family: they differ in the width of a word, the number of
rounds, the rotation amounts, the initial state and the length of the digest. The constants are
fractional parts of square and cube roots of the first primes.
-/

namespace ApiGateway.Sha2

/-- The largest `x` with `x ^ k ≤ n`, found bit by bit from bit `bits` downwards. -/
def root (k n : Nat) : Nat → Nat → Nat
  | 0, x => if Nat.pow (x + 1) k ≤ n then x + 1 else x
  | bit + 1, x =>
    let y := x + Nat.pow 2 (bit + 1)
    root k n bit (if Nat.pow y k ≤ n then y else x)

def isPrime (n : Nat) : Bool := 2 ≤ n && (List.range n).all fun d => d < 2 || n % d != 0

def primes : List Nat := (List.range 410).filter isPrime

/-- The first 64 bits of the fractional part of the `k`-th root of `p`. -/
def rootFraction (k p : Nat) : Nat := 
  root k (p * Nat.pow 2 (64 * k)) 80 0 % Nat.pow 2 64

def cubeRoots : List Nat := primes.map (rootFraction 3)

def squareRoots : List Nat := (primes.take 16).map (rootFraction 2)

/-- Two rotations and a last amount, which a round function rotates or shifts by. -/
abbrev Amounts := Nat × Nat × Nat

structure Family where
  width : Nat
  rounds : Nat
  upper0 : Amounts
  upper1 : Amounts
  lower0 : Amounts
  lower1 : Amounts

def words32 : Family :=
  ⟨32, 64, (2, 13, 22), (6, 11, 25), (7, 18, 3), (17, 19, 10)⟩

def words64 : Family :=
  ⟨64, 80, (28, 34, 39), (14, 18, 41), (1, 8, 7), (19, 61, 6)⟩

namespace Family

variable (f : Family)

abbrev Word := BitVec f.width

/-- A constant has the leading bits of a 64-bit fraction. -/
def constant (fraction : Nat) : f.Word := BitVec.ofNat f.width (fraction / Nat.pow 2 (64 - f.width))

structure State where
  a : f.Word
  b : f.Word
  c : f.Word
  d : f.Word
  e : f.Word
  f' : f.Word
  g : f.Word
  h : f.Word

def rotations (amounts : Amounts) (x : f.Word) : f.Word :=
  x.rotateRight amounts.1 ^^^ x.rotateRight amounts.2.1 ^^^ x.rotateRight amounts.2.2

def shifts (amounts : Amounts) (x : f.Word) : f.Word :=
  x.rotateRight amounts.1 ^^^ x.rotateRight amounts.2.1 ^^^ (x >>> amounts.2.2)

def choose (x y z : f.Word) : f.Word := (x &&& y) ^^^ (~~~x &&& z)

def majority (x y z : f.Word) : f.Word := (x &&& y) ^^^ (x &&& z) ^^^ (y &&& z)

def round (s : f.State) (k w : f.Word) : f.State :=
  let t := s.h + f.rotations f.upper1 s.e + f.choose s.e s.f' s.g + k + w
  let u := f.rotations f.upper0 s.a + f.majority s.a s.b s.c
  ⟨t + u, s.a, s.b, s.c, s.d + t, s.e, s.f', s.g⟩

/-- The word sixteen places further on in the message schedule. -/
def nextWord (window : List f.Word) : f.Word :=
  let word (i : Nat) := window.getD i 0
  f.shifts f.lower1 (word 14) + word 9 + f.shifts f.lower0 (word 1) + word 0

/-- All rounds, over a window of the next sixteen words of the schedule. -/
def rounding (s : f.State) (window : List f.Word) : List f.Word → f.State
  | [] => s
  | k :: ks =>
    rounding (f.round s k (window.headD 0)) (window.tail ++ [f.nextWord window]) ks

def compress (s : f.State) (block : List f.Word) : f.State :=
  let t := f.rounding s block ((cubeRoots.take f.rounds).map f.constant)
  ⟨s.a + t.a, s.b + t.b, s.c + t.c, s.d + t.d, s.e + t.e, s.f' + t.f', s.g + t.g, s.h + t.h⟩

def wordBytes : Nat := f.width / 8

def blockBytes : Nat := 16 * f.wordBytes

/-- A one bit, then zeros, then the length in bits, so that whole blocks result. -/
def padding (length : Nat) : Bytes :=
  let lengthBytes := 2 * f.wordBytes
  let used := (length + 1 + lengthBytes) % f.blockBytes
  0x80 :: List.replicate ((f.blockBytes - used) % f.blockBytes) 0 ++
    Bytes.ofNat lengthBytes (8 * length)

/-- Cuts into pieces of `size` bytes; there are at most `count` of them. -/
def pieces (size : Nat) : Nat → Bytes → List Bytes
  | 0, _ => []
  | count + 1, bytes =>
    if bytes = [] then [] else bytes.take size :: pieces size count (bytes.drop size)

def word (bytes : Bytes) : f.Word :=
  BitVec.ofNat f.width (Bytes.toNat bytes)

def initial (roots : List Nat) : f.State :=
  let start (i : Nat) : f.Word := f.constant (roots.getD i 0)
  ⟨start 0, start 1, start 2, start 3, start 4, start 5, start 6, start 7⟩

def output (s : f.State) : Bytes :=
  [s.a, s.b, s.c, s.d, s.e, s.f', s.g, s.h].flatMap fun w => Bytes.ofNat f.wordBytes w.toNat

/-- The digest before it is cut to its length. -/
def hash (roots : List Nat) (message : Bytes) : Bytes :=
  let padded := message ++ f.padding message.length
  let blocks := pieces f.blockBytes padded.length padded
  let words (block : Bytes) := (pieces f.wordBytes 16 block).map f.word
  f.output (blocks.foldl (fun s block => f.compress s (words block)) (f.initial roots))

end Family

def sha256 (message : Bytes) : Bytes := words32.hash squareRoots message

def sha384 (message : Bytes) : Bytes := (words64.hash (squareRoots.drop 8) message).take 48

def sha512 (message : Bytes) : Bytes := words64.hash squareRoots message

end ApiGateway.Sha2
