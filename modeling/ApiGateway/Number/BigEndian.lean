import ApiGateway.Text

/-! # Numbers as bytes

Natural numbers in base 256, the most significant byte first, or the least.
-/

namespace ApiGateway.Bytes

def ofNat : Nat → Nat → Bytes
  | 0, _ => []
  | count + 1, n => ofNat count (n / 256) ++ [UInt8.ofNat n]

def toNat (bytes : Bytes) : Nat := bytes.foldl (fun n b => n * 256 + b.toNat) 0

/-- The number that bytes write from the least significant one on. -/
def toNatReversed (bytes : Bytes) : Nat := toNat bytes.reverse

theorem length_ofNat (count n : Nat) : (ofNat count n).length = count := by
  induction count generalizing n with
  | zero => rfl
  | succ count ih => simp [ofNat, ih]

end ApiGateway.Bytes
