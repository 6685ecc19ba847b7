import ApiGateway.Crypto.Sha2
import ApiGateway.Crypto.Weierstrass

/-! # The Edwards curve for signatures

Multiples of the base point on Edwards25519, and the public key that belongs to a seed.
-/

namespace ApiGateway.Edwards

def prime : Nat := Nat.pow 2 255 - 19

/-- The constant of the curve `-x² + y² = 1 + d x² y²`. -/
def d : Nat := 0x52036cee2b6ffe738cc740797779e89800700a4d4141d8ab75eb4dca135978a3

/-- The point `(x / z, y / z)`, with the product of its coordinates `t / z`. -/
structure Point where
  x : Nat
  y : Nat
  z : Nat
  t : Nat
  deriving DecidableEq, Repr

def zero : Point := ⟨0, 1, 1, 0⟩

def base : Point :=
  let x := 0x216936d3cd6e53fec0a4e231fdd6dc5c692cc7609525a7b2c9562d608f25d51a
  let y := 0x6666666666666666666666666666666666666666666666666666666666666658
  ⟨x, y, 1, x * y % prime⟩

def sub (a b : Nat) : Nat := (a + prime - b % prime) % prime

/-- The sum of two points, which may be equal. -/
def add (p q : Point) : Point :=
  let a := sub p.y p.x * sub q.y q.x % prime
  let b := (p.y + p.x) * (q.y + q.x) % prime
  let c := 2 * p.t * q.t % prime * d % prime
  let e := 2 * p.z * q.z % prime
  let h := sub b a
  let f := sub e c
  let g := e + c
  let k := b + a
  ⟨h * f % prime, g * k % prime, f * g % prime, h * k % prime⟩

/-- The multiple of the base point by a number of at most `bits` bits. -/
def multiple : Nat → Nat → Point
  | 0, _ => zero
  | bits + 1, n =>
    let half := multiple bits (n / 2)
    let twice := add half half
    if n % 2 = 1 then add twice base else twice

/-- The number that a seed's hash stands for: the lowest three bits and the highest one are cleared,
and the second highest one is set. -/
def scalar (seed : Bytes) : Nat :=
  let n := Bytes.toNatReversed ((Sha2.sha512 seed).take 32)
  n % Nat.pow 2 254 / 8 * 8 + Nat.pow 2 254

/-- The public key of a seed: the second coordinate, with the sign of the first in its highest
bit. -/
def publicKey (seed : Bytes) : Bytes :=
  let point := multiple 255 (scalar seed)
  let inverse := powMod prime point.z 255 (prime - 2)
  let x := point.x * inverse % prime
  let y := point.y * inverse % prime
  (Bytes.ofNat 32 (x % 2 * Nat.pow 2 255 + y)).reverse

end ApiGateway.Edwards
