import ApiGateway.Text

/-! # Internet addresses

Reading and writing IPv4 and IPv6 addresses, alone and with the number of a socket.
-/

namespace ApiGateway

inductive IpAddress
  | v4 (bytes : List Nat)
  | v6 (groups : List Nat)
  deriving DecidableEq, Repr

namespace IpAddress

/-- A decimal number below 256 without needless zeros. -/
def byte? (s : Text) : Option Nat := do
  if s = [] ∨ 3 < s.length ∨ (s.head? = some '0' ∧ s ≠ ['0']) then none
  else
    let n ← Text.numeral? 10 s
    if n < 256 then some n else none

def v4? (s : Text) : Option (List Nat) :=
  match s.split '.' with
  | [a, b, c, d] => [a, b, c, d].mapM byte?
  | _ => none

def group? (s : Text) : Option Nat :=
  if s = [] ∨ 4 < s.length then none else Text.numeral? 16 s

/-- The groups between colons. In place of the last two there may be an IPv4 address. -/
def groups? : List Text → Option (List Nat)
  | [] => none
  | [s] =>
    match group? s with
    | some n => some [n]
    | none => do
      match ← v4? s with
      | [a, b, c, d] => some [a * 256 + b, c * 256 + d]
      | _ => none
  | s :: rest => do
    let n ← group? s
    some (n :: (← groups? rest))

/-- The groups on one side of a double colon, of which there may be none. -/
def side? (s : Text) : Option (List Nat) := if s = [] then some [] else groups? (s.split ':')

def cutDouble : Text → Option (Text × Text)
  | ':' :: ':' :: rest => some ([], rest)
  | c :: rest => (cutDouble rest).map fun (left, right) => (c :: left, right)
  | [] => none

/-- Whether the last group before a double colon is an IPv4 address, which it must not be. -/
def endsInV4 (s : Text) : Bool := (s.split ':').getLast?.any (·.contains '.')

/-- Eight groups, or fewer around a double colon that stands for at least one. -/
def v6? (s : Text) : Option (List Nat) :=
  match cutDouble s with
  | some (left, right) => do
    let before ← side? left
    let after ← side? right
    let missing := 8 - (before.length + after.length)
    if missing = 0 ∨ endsInV4 left then none
    else some (before ++ List.replicate missing 0 ++ after)
  | none => do
    let groups ← groups? (s.split ':')
    if groups.length = 8 then some groups else none

def ofText? (s : Text) : Option IpAddress :=
  match v4? s with
  | some bytes => some (.v4 bytes)
  | none => (v6? s).map .v6

def v4Text (bytes : List Nat) : Text := Text.join ['.'] (bytes.map Text.ofNat)

def groupText (n : Nat) : Text := (Nat.toDigits 16 n)

def groupsText (groups : List Nat) : Text := Text.join [':'] (groups.map groupText)

def zeros (groups : List Nat) : Nat := (groups.takeWhile (· = 0)).length

/-- The start and the length of the first of the longest runs of zeros. -/
def longestZeros (start : Nat) : List Nat → Nat × Nat
  | [] => (start, 0)
  | g :: rest =>
    let here := zeros (g :: rest)
    let later := longestZeros (start + 1) rest
    if later.2 ≤ here then (start, here) else later

/-- A run of at least two zeros becomes a double colon. -/
def v6Text (groups : List Nat) : Text :=
  let (start, length) := longestZeros 0 groups
  if length < 2 then groupsText groups
  else groupsText (groups.take start) ++ "::" ++ groupsText (groups.drop (start + length))

/-- The text of an address. One that stands for an IPv4 address shows the latter. -/
def text : IpAddress → Text
  | v4 bytes => v4Text bytes
  | v6 [0, 0, 0, 0, 0, 0xFFFF, a, b] =>
    "::ffff:" ++ v4Text [a / 256, a % 256, b / 256, b % 256]
  | v6 groups => v6Text groups

end IpAddress

structure SocketAddress where
  ip : IpAddress
  number : Nat
  deriving DecidableEq, Repr

namespace SocketAddress

def number? (bits : Nat) (s : Text) : Option Nat := do
  if s = [] then none
  else
    let n ← Text.numeral? 10 s
    if n < Nat.pow 2 bits then some n else none

/-- An IPv6 address with or without a numeric scope. -/
def scoped? (s : Text) : Option (List Nat) :=
  match Text.cutFirst '%' s with
  | some (address, scope) => do
    let _ ← number? 32 scope
    IpAddress.v6? address
  | none => IpAddress.v6? s

/-- Reads `address:number`, with brackets around an IPv6 address. -/
def ofText? (s : Text) : Option SocketAddress := do
  let (host, number) ← Text.cutLast ':' s
  let number ← number? 16 number
  match host with
  | '[' :: rest =>
    if rest.getLast? = some ']' then some ⟨.v6 (← scoped? rest.dropLast), number⟩ else none
  | _ => some ⟨.v4 (← IpAddress.v4? host), number⟩

end SocketAddress

end ApiGateway
