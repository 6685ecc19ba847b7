/-! # Double precision numbers

The finite numbers of the binary64 format as exact dyadic fractions, with products and quotients
rounded to the nearest of them, ties to the even one. All arithmetic is on natural numbers.
-/

namespace ApiGateway

/-- The number `± mantissa * 2 ^ exponent`. The mantissa is below `2 ^ 53`, and at least `2 ^ 52`
unless the exponent is the least one. -/
structure Binary64 where
  negative : Bool
  mantissa : Nat
  exponent : Int
  deriving DecidableEq, Repr

namespace Binary64

def leastExponent : Int := -1074

def greatestExponent : Int := 971

def zero : Binary64 := ⟨false, 0, leastExponent⟩

def neg (x : Binary64) : Binary64 := { x with negative := !x.negative }

def isZero (x : Binary64) : Bool := x.mantissa == 0

/-- The quotient rounded to the nearest integer, a half to the even one. -/
def roundDiv (a b : Nat) : Nat :=
  let q := a / b
  let r := a % b
  if 2 * r < b then q else if b < 2 * r then q + 1 else q + q % 2

/-- The fraction `num / den * 2 ^ (-e)` as a pair. -/
def shift (num den : Nat) (e : Int) : Nat × Nat :=
  if 0 ≤ e then (num, den * Nat.pow 2 e.toNat) else (num * Nat.pow 2 (-e).toNat, den)

/-- The double nearest to the fraction `num / den`, or nothing if it is too large for one. -/
def ofFraction? (num den : Nat) : Option Binary64 :=
  if num = 0 then some zero
  else
    let estimate : Int := (num.log2 : Int) - den.log2 - 52
    let (n, d) := shift num den estimate
    let exact := if n < d * Nat.pow 2 52 then estimate - 1 else estimate
    let e := max exact leastExponent
    let (n, d) := shift num den e
    let m := roundDiv n d
    let (m, e) := if m = Nat.pow 2 53 then (Nat.pow 2 52, e + 1) else (m, e)
    if greatestExponent < e then none else some ⟨false, m, e⟩

def fraction (x : Binary64) : Nat × Nat := shift x.mantissa 1 (-x.exponent)

def ofNat? (n : Nat) : Option Binary64 := ofFraction? n 1

/-- The rounded product of two magnitudes. -/
def mul? (x y : Binary64) : Option Binary64 :=
  let (a, b) := x.fraction
  let (c, d) := y.fraction
  ofFraction? (a * c) (b * d)

/-- The rounded quotient of two magnitudes. -/
def div? (x y : Binary64) : Option Binary64 :=
  let (a, b) := x.fraction
  let (c, d) := y.fraction
  ofFraction? (a * d) (b * c)

/-- The magnitude rounded to the nearest integer, a half upwards. -/
def roundHalfUp (x : Binary64) : Nat :=
  let (n, d) := x.fraction
  (2 * n + d) / (2 * d)

end Binary64

end ApiGateway
