import ApiGateway.Number.Binary64
import ApiGateway.Text

/-! # Shortest decimals

The decimal with the fewest digits that reads back as a given double. Decimals with one digit are
tried first, then those with two, and so on; of two with the same number of digits the nearer one
is taken.
-/

namespace ApiGateway.Binary64

/-- The digits `digits` stand for the number `digits * 10 ^ scale`. -/
structure Decimal where
  digits : Nat
  scale : Int
  deriving DecidableEq, Repr

/-- Four times the magnitude and the ends of the interval of reals that round to it, over one
denominator: lower end, value, upper end, denominator. -/
def interval (x : Binary64) : Nat × Nat × Nat × Nat :=
  let (n, d) := shift (4 * x.mantissa) 1 (-x.exponent)
  let (half, _) := shift 2 1 (-x.exponent)
  let below := if x.mantissa = Nat.pow 2 52 ∧ leastExponent < x.exponent then half / 2 else half
  if x.mantissa = Nat.pow 2 52 ∧ leastExponent < x.exponent ∧ half = 1 then
    (2 * n - 1, 2 * n, 2 * n + 2, 8 * d)
  else (n - below, n, n + half, 4 * d)

/-- The number of decimal digits before the point, negative for leading zeros after it: the least
`k` with `num / den < 10 ^ k`. -/
def magnitude (num den : Nat) : Int :=
  if den ≤ num then (Nat.toDigits 10 (num / den)).length
  else
    let inverse := den / num
    let k : Int := -((Nat.toDigits 10 inverse).length : Int)
    let fits (k : Int) : Bool := num * Nat.pow 10 (-k).toNat < den
    if fits k then k else k + 1

/-- The best decimal with the given number of digits, if one reads back. -/
def withDigits? (x : Binary64) (count : Nat) : Option Decimal :=
  let (low, value, high, den) := x.interval
  let scale := magnitude value den - count
  let unit (a : Nat) : Nat × Nat :=
    if 0 ≤ scale then (a, den * Nat.pow 10 scale.toNat)
    else (a * Nat.pow 10 (-scale).toNat, den)
  let (v, d) := unit value
  let (l, _) := unit low
  let (h, _) := unit high
  let inside (q : Nat) : Bool :=
    if x.mantissa % 2 = 0 then l ≤ q * d && q * d ≤ h else l < q * d && q * d < h
  let down := v / d
  let up := down + 1
  let rest := v % d
  let nearest :=
    if 2 * rest < d then down else if d < 2 * rest then up else down + down % 2
  if inside nearest then some ⟨nearest, scale⟩
  else if inside down then some ⟨down, scale⟩
  else if inside up then some ⟨up, scale⟩
  else none

/-- The shortest decimal that reads back; seventeen digits always do. -/
def shortest (x : Binary64) : Decimal :=
  if x.isZero then ⟨0, 0⟩
  else ((List.range 17).findSome? fun n => x.withDigits? (n + 1)).getD ⟨0, 0⟩

def Decimal.normalize (d : Decimal) : Decimal :=
  let text := Nat.toDigits 10 d.digits
  let zeros := (text.reverse.takeWhile (· = '0')).length
  if d.digits = 0 then ⟨0, 0⟩ else ⟨d.digits / Nat.pow 10 zeros, d.scale + zeros⟩

/-- The shortest decimal in positional notation, always with a point. -/
def positional (x : Binary64) : Text :=
  let d := x.shortest.normalize
  let digits := Nat.toDigits 10 d.digits
  let body : Text :=
    if 0 ≤ d.scale then digits ++ List.replicate d.scale.toNat '0' ++ ".0"
    else
      let places := (-d.scale).toNat
      let padded := List.replicate (places + 1 - digits.length) '0' ++ digits
      padded.take (padded.length - places) ++ '.' :: padded.drop (padded.length - places)
  if x.negative then '-' :: body else body

/-- The shortest decimal with a point or an exponent: positional from `1e-5` up to below `1e16`,
scientific outside. -/
def scientific (x : Binary64) : Text :=
  let d := x.shortest.normalize
  let digits := Nat.toDigits 10 d.digits
  let point : Int := d.scale + digits.length
  if x.isZero ∨ (-5 < point ∧ point ≤ 16) then x.positional
  else
    let exponent := point - 1
    let tail : Text := match digits with
      | [] => []
      | [c] => [c]
      | c :: cs => c :: '.' :: cs
    let mark : Text := if exponent < 0 then "e-" else "e+"
    (if x.negative then "-" else "" : Text) ++ tail ++ mark ++ Text.ofNat exponent.natAbs

end ApiGateway.Binary64
