import ApiGateway.Text

/-! # Taking turns

A counter hands out the items of a list in turn. It counts the turns in a 64-bit word, which wraps
around.
-/

namespace ApiGateway

structure RoundRobin where
  position : UInt64 := 0
  deriving DecidableEq, Repr

/-- The item whose turn it is. The counter moves only if there is one. -/
def RoundRobin.next {α : Type} (r : RoundRobin) (items : List α) : Option α × RoundRobin :=
  match items with
  | [] => (none, r)
  | _ :: _ => (items[r.position.toNat % items.length]?, ⟨r.position + 1⟩)

end ApiGateway
