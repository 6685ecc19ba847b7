import ApiGateway.Number.BigEndian

/-! # Curves for signatures

Multiples of the base point on the curves P-256 and P-384, by doubling and adding with the
coordinates as fractions.
-/

namespace ApiGateway

/-- The powers of a number to a modulus, by squaring; `bits` bounds the length of the exponent. -/
def powMod (modulus base : Nat) : Nat → Nat → Nat
  | 0, _ => 1 % modulus
  | bits + 1, exponent =>
    let half := powMod modulus base bits (exponent / 2)
    let square := half * half % modulus
    if exponent % 2 = 1 then square * base % modulus else square

/-- The curve `y² = x³ - 3x + b` over a prime field, with a base point of prime order. -/
structure Weierstrass where
  bytes : Nat
  prime : Nat
  baseX : Nat
  baseY : Nat
  order : Nat
  deriving DecidableEq, Repr

namespace Weierstrass

def p256 : Weierstrass where
  bytes := 32
  prime := Nat.pow 2 256 - Nat.pow 2 224 + Nat.pow 2 192 + Nat.pow 2 96 - 1
  baseX := 0x6b17d1f2e12c4247f8bce6e563a440f277037d812deb33a0f4a13945d898c296
  baseY := 0x4fe342e2fe1a7f9b8ee7eb4a7c0f9e162bce33576b315ececbb6406837bf51f5
  order := 0xffffffff00000000ffffffffffffffffbce6faada7179e84f3b9cac2fc632551

def p384 : Weierstrass where
  bytes := 48
  prime := Nat.pow 2 384 - Nat.pow 2 128 - Nat.pow 2 96 + Nat.pow 2 32 - 1
  baseX :=
    0xaa87ca22be8b05378eb1c71ef320ad746e1d3b628ba79b9859f741e082542a385502f25dbf55296c3a545e3872760ab7
  baseY :=
    0x3617de4a96262c6f5d9e98bf9292dc29f8f41dbd289a147ce9da3113b5f0b8c00a60b1ce1d7e819d7a431d7c90ea0e5f
  order :=
    0xffffffffffffffffffffffffffffffffffffffffffffffffc7634d81f4372ddf581a0db248b0a77aecec196accc52973

/-- The point `(x / z², y / z³)`; with `z = 0` it is the point at infinity. -/
structure Point where
  x : Nat
  y : Nat
  z : Nat
  deriving DecidableEq, Repr

variable (curve : Weierstrass)

def sub (a b : Nat) : Nat := (a + curve.prime - b % curve.prime) % curve.prime

def mul (a b : Nat) : Nat := a * b % curve.prime

def double (p : Point) : Point :=
  let zz := curve.mul p.z p.z
  let yy := curve.mul p.y p.y
  let s := 4 * curve.mul p.x yy
  let m := 3 * curve.mul (curve.sub p.x zz) (p.x + zz)
  let x := curve.sub (m * m) (2 * s)
  ⟨x, curve.sub (m * curve.sub s x) (8 * curve.mul yy yy), curve.mul (2 * p.y) p.z⟩

def add (p q : Point) : Point :=
  if p.z = 0 then q
  else if q.z = 0 then p
  else
    let pz := curve.mul p.z p.z
    let qz := curve.mul q.z q.z
    let u := curve.mul p.x qz
    let v := curve.mul q.x pz
    let s := curve.mul p.y (q.z * qz)
    let t := curve.mul q.y (p.z * pz)
    let h := curve.sub v u
    let r := curve.sub t s
    if h = 0 then if r = 0 then curve.double p else ⟨1, 1, 0⟩
    else
      let hh := curve.mul h h
      let hhh := curve.mul h hh
      let x := curve.sub (r * r) (hhh + 2 * curve.mul u hh)
      ⟨x, curve.sub (r * curve.sub (u * hh) x) (s * hhh), curve.mul h (p.z * q.z)⟩

/-- The multiple of the base point by a number of at most `bits` bits. -/
def multiple : Nat → Nat → Point
  | 0, _ => ⟨1, 1, 0⟩
  | bits + 1, n =>
    let twice := curve.double (multiple bits (n / 2))
    if n % 2 = 1 then curve.add twice ⟨curve.baseX, curve.baseY, 1⟩ else twice

def publicKey (secret : Nat) : Bytes :=
  let point := curve.multiple (8 * curve.bytes) secret
  let inverse := powMod curve.prime point.z (8 * curve.bytes) (curve.prime - 2)
  let square := curve.mul inverse inverse
  0x04 :: Bytes.ofNat curve.bytes (curve.mul point.x square) ++
    Bytes.ofNat curve.bytes (curve.mul point.y (square * inverse))

end Weierstrass

end ApiGateway
